import ArithmeticCloud.Proofs.Billing.Subscriptions
import ArithmeticCloud.Proofs.Service.Responses
import Mathlib.Data.List.Forall2

/-!
Contract: what a request of a client can change.

Owns:
- the frame of each part of the state: `Accounts.SameBut`, `Registry.Worn`, and
  `Controller.Changes`, which is that of the whole controller;
- the effect of each query, and of a process that uses permitted queries only;
- `Session.Confined`, which parts of the state a request line can change.

Does not own: which requests are refused.
-/

namespace ArithmeticCloud

open Network

/-! ## Accounts -/

namespace Billing.Accounts

/-- The same accounts as before, but for the balance and the subscription of the owner, and
for who of those that switch is online. -/
structure SameBut (owner : Option String) (switches : String → Prop) (before after : Accounts) :
    Prop where
  names : after.accounts.map Account.name = before.accounts.map Account.name
  passwords : ∀ name, (after.find? name).map Account.password =
    (before.find? name).map Account.password
  credits : ∀ name, owner ≠ some name → after.credits? name = before.credits? name
  subscriptions : ∀ name, owner ≠ some name → after.subscription? name = before.subscription? name
  online : ∀ name, ¬ switches name → after.isOnline name = before.isOnline name

variable {owner : Option String} {switches : String → Prop} {before between after : Accounts}

theorem SameBut.refl (owner : Option String) (switches : String → Prop) (accounts : Accounts) :
    SameBut owner switches accounts accounts :=
  ⟨rfl, fun _ => rfl, fun _ _ => rfl, fun _ _ => rfl, fun _ _ => rfl⟩

theorem SameBut.trans (first : SameBut owner switches before between)
    (second : SameBut owner switches between after) : SameBut owner switches before after where
  names := second.names.trans first.names
  passwords name := (second.passwords name).trans (first.passwords name)
  credits name other := (second.credits name other).trans (first.credits name other)
  subscriptions name other :=
    (second.subscriptions name other).trans (first.subscriptions name other)
  online name stays := (second.online name stays).trans (first.online name stays)

theorem names_modify (accounts : Accounts) (name : String) {change : Account → Account}
    (keeps : ∀ account, account.name = name → (change account).name = name) :
    (accounts.modify name change).accounts.map Account.name =
      accounts.accounts.map Account.name := by
  simp only [modify, List.map_map, List.map_inj_left, Function.comp_apply]
  intro account _
  split
  · next named => rw [keeps account named, named]
  · rfl

theorem sameBut_setOnline {name : String} (switched : switches name) (accounts : Accounts)
    (online : Bool) : SameBut owner switches accounts (accounts.setOnline name online) where
  names := names_modify accounts name fun _ named => named
  passwords other := map_find?_setOnline accounts name other online fun _ => rfl
  credits other _ := credits?_setOnline accounts name other online
  subscriptions other _ := by
    have kept : ((accounts.setOnline name online).find? other).map Account.subscription =
        (accounts.find? other).map Account.subscription :=
      map_find?_setOnline accounts name other online fun _ => rfl
    simpa [subscription?, Option.bind_map] using congrArg (Option.bind · id) kept
  online other stays := by
    rw [isOnline_setOnline, if_neg]
    rintro rfl
    exact stays switched

theorem sameBut_adjust {name : String} (owned : owner = some name) (accounts : Accounts)
    (delta : Int64) : SameBut owner switches accounts (accounts.adjust name delta).2.2 where
  names := by
    unfold adjust
    cases found : accounts.find? name with
    | none => rfl
    | some account => exact names_modify accounts name fun _ _ => by simpa using name_of_find? found
  passwords other := by
    rw [find?_adjust]
    split
    · next same =>
        subst other
        cases accounts.find? name <;> simp
    · rfl
  credits other unowned := by
    rw [credits?_adjust, if_neg]
    rintro rfl
    exact unowned owned
  subscriptions other unowned := by
    unfold subscription?
    rw [find?_adjust, if_neg]
    rintro rfl
    exact unowned owned
  online other _ := isOnline_adjust accounts name other delta

end Billing.Accounts

/-! ## Records -/

namespace Fleet

/-- A record of the same node, with no less usage, and online only if it was before. -/
structure NodeRecord.Worn (before after : NodeRecord) : Prop where
  node : after = { before with usage := after.usage, online := after.online }
  usage : before.usage ≤ after.usage
  online : after.online = true → before.online = true

theorem NodeRecord.Worn.refl (record : NodeRecord) : record.Worn record :=
  ⟨rfl, UInt64.le_refl _, id⟩

theorem NodeRecord.Worn.trans {before between after : NodeRecord} (first : before.Worn between)
    (second : between.Worn after) : before.Worn after where
  node := by rw [second.node, first.node]
  usage := UInt64.le_trans first.usage second.usage
  online := first.online ∘ second.online

/-- The same nodes as before, in the same order. -/
def Registry.Worn (before after : Registry) : Prop :=
  List.Forall₂ NodeRecord.Worn before.records after.records

namespace Registry

theorem Worn.refl (registry : Registry) : registry.Worn registry :=
  List.forall₂_same.mpr fun record _ => .refl record

theorem Worn.trans {before between after : Registry} (first : before.Worn between)
    (second : between.Worn after) : before.Worn after := by
  rcases before with ⟨earlier⟩
  rcases between with ⟨middle⟩
  rcases after with ⟨later⟩
  change List.Forall₂ _ earlier middle at first
  change List.Forall₂ _ middle later at second
  show List.Forall₂ _ earlier later
  induction first generalizing later with
  | nil => exact second
  | cons worn _ inductionHypothesis =>
      cases second with
      | cons wornLater rest => exact .cons (worn.trans wornLater) (inductionHypothesis _ rest)

theorem worn_modify (registry : Registry) (endpoint : Endpoint) {change : NodeRecord → NodeRecord}
    (wears : ∀ record : NodeRecord, record.Worn (change record)) :
    registry.Worn (registry.modify endpoint change) := by
  unfold Worn modify
  rw [List.forall₂_map_right_iff, List.forall₂_same]
  intro record _
  split
  · exact wears record
  · exact .refl record

theorem worn_addUsage (registry : Registry) (endpoint : Endpoint) (amount : UInt64) :
    registry.Worn (registry.addUsage endpoint amount) := by
  refine worn_modify registry endpoint fun record => ⟨rfl, ?_, id⟩
  have bounded : record.usage.toNat < UInt64.size := record.usage.toNat_lt
  rw [UInt64.le_iff_toNat_le, toNat_saturatingSum]
  omega

theorem worn_markOffline (registry : Registry) (endpoint : Endpoint) :
    registry.Worn (registry.markOffline endpoint) := by
  refine worn_modify registry endpoint fun record => ⟨rfl, UInt64.le_refl _, ?_⟩
  intro online
  cases online

end Registry

end Fleet

/-! ## The controller -/

namespace Service

open Billing Fleet Text

variable {σ α : Type}

/-- What can be changed for an owner: the owner's account, who of those that switch is online,
and, if it computes, the nodes, their records and the statistics. -/
structure Controller.Changes (owner : Option String) (switches : String → Prop) (computes : Prop)
    (before after : Controller σ) : Prop where
  accounts : before.accounts.SameBut owner switches after.accounts
  registry : ¬ computes → after.registry = before.registry
  records : before.registry.Worn after.registry
  statistics : ¬ computes → after.statistics = before.statistics
  nodes : ¬ computes → after.nodes = before.nodes

/-- The queries with no further effect. A login is not among them, since it depends on its
answer who is then online. -/
def Query.Permitted (owner : Option String) (switches : String → Prop) (computes : Prop) :
    Query → Prop
  | .login .. => False
  | .logout name => switches name
  | .adjust name _ => owner = some name
  | .credits _ | .availableOperators => True
  | .pick _ | .compute .. | .addUsage .. | .markOffline _ | .count _ => computes

namespace Controller

variable {owner : Option String} {switches : String → Prop} {computes : Prop}

theorem Changes.refl (controller : Controller σ) :
    Changes owner switches computes controller controller :=
  ⟨.refl owner switches controller.accounts, fun _ => rfl, .refl controller.registry,
    fun _ => rfl, fun _ => rfl⟩

theorem Changes.trans {before between after : Controller σ}
    (first : Changes owner switches computes before between)
    (second : Changes owner switches computes between after) :
    Changes owner switches computes before after where
  accounts := first.accounts.trans second.accounts
  registry other := (second.registry other).trans (first.registry other)
  records := first.records.trans second.records
  statistics other := (second.statistics other).trans (first.statistics other)
  nodes other := (second.nodes other).trans (first.nodes other)

/-- A change of the accounts alone. -/
theorem Changes.ofAccounts {before after : Controller σ}
    (accounts : before.accounts.SameBut owner switches after.accounts)
    (registry : after.registry = before.registry)
    (statistics : after.statistics = before.statistics) (nodes : after.nodes = before.nodes) :
    Changes owner switches computes before after :=
  ⟨accounts, fun _ => registry, registry ▸ .refl before.registry, fun _ => statistics,
    fun _ => nodes⟩

/-- A delivery concerns receivers only. -/
theorem Changes.deliver {before after : Controller σ}
    (changes : Changes owner switches computes before after) (due : Option Notification) :
    Changes owner switches computes before (after.deliver due) := by
  cases due with
  | none => exact changes
  | some notification => exact ⟨changes.1, changes.2, changes.3, changes.4, changes.5⟩

theorem changes_tellRegistry (computing : computes) (controller : Controller σ)
    {change : Registry → Registry}
    (wears : ∀ registry : Registry, registry.Worn (change registry)) :
    Changes owner switches computes controller (controller.tellRegistry change) := by
  unfold tellRegistry
  split
  · exact ⟨.refl owner switches controller.accounts, absurd computing, wears controller.registry,
      fun _ => rfl, fun _ => rfl⟩
  · exact .refl controller

/-- A permitted query has no further effect. -/
theorem changes_answer (link : Link σ) (controller : Controller σ) {query : Query}
    (permitted : query.Permitted owner switches computes) :
    Changes owner switches computes controller (controller.answer link query).2 := by
  cases query with
  | login name password => exact permitted.elim
  | logout name =>
      show Changes _ _ _ _ (controller.tellAccounts (·.logout name))
      unfold tellAccounts
      split
      · exact .ofAccounts (Accounts.sameBut_setOnline permitted controller.accounts false)
          rfl rfl rfl
      · exact .refl controller
  | credits name =>
      have unchanged : (controller.answer link (.credits name)).2 = controller :=
        controller.snd_askAccounts rfl
      rw [unchanged]
      exact .refl controller
  | adjust name delta =>
      show Changes _ _ _ _ (controller.adjust name delta).2
      unfold Controller.adjust
      split
      · have adjusted : Changes owner switches computes controller
            { controller with accounts := (controller.accounts.adjust name delta).2.2 } :=
          .ofAccounts (Accounts.sameBut_adjust permitted controller.accounts delta) rfl rfl rfl
        exact adjusted.deliver _
      · exact .refl controller
  | availableOperators =>
      have unchanged : (controller.answer link .availableOperators).2 = controller :=
        controller.snd_askRegistry rfl
      rw [unchanged]
      exact .refl controller
  | pick operator =>
      have unchanged : (controller.answer link (.pick operator)).2 = controller :=
        controller.snd_askRegistry rfl
      rw [unchanged]
      exact .refl controller
  | addUsage node amount =>
      exact changes_tellRegistry permitted controller (·.worn_addUsage node amount)
  | markOffline node =>
      exact changes_tellRegistry permitted controller (·.worn_markOffline node)
  | compute node left operator right =>
      exact ⟨.refl owner switches controller.accounts, fun _ => rfl, .refl controller.registry,
        fun _ => rfl, absurd permitted⟩
  | count line =>
      exact ⟨.refl owner switches controller.accounts, fun _ => rfl, .refl controller.registry,
        absurd permitted, fun _ => rfl⟩

/-- From one query to the next, a process that uses permitted queries has no further effect. -/
theorem changes_run (link : Link σ) {process : Process α}
    (uses : process.Uses (Query.Permitted owner switches computes)) (controller : Controller σ) :
    Changes owner switches computes controller (controller.run link process).2 := by
  induction process generalizing controller with
  | done result => exact .refl controller
  | ask query next inductionHypothesis =>
      obtain ⟨permitted, rest⟩ := uses
      have answered := changes_answer link controller permitted
      rw [run]
      split
      · next found between reached =>
          rw [reached] at answered
          exact answered.trans (inductionHypothesis found (rest found) between)
      · next fault between reached =>
          rw [reached] at answered
          exact answered

end Controller

/-! ## Requests -/

/-- Whether a line is a compute request, well-formed or not. -/
def IsCompute (line : String) : Prop := (words line.toList).head? = some "!compute".toList

namespace Session

variable {session : Session} {line : String}

/-- Whose being online a request line switches: a logout that of its own user, and a login
that of the user it names, if it succeeds. -/
def Switches (session : Session) (line : String) (result : Except Fault (Response × Session))
    (name : String) : Prop :=
  (Request.ofLine line = .logout ∧ session.user = some name) ∨
    ∃ password, Request.ofLine line = .login name password ∧
      result = .ok (.login .loggedIn, ⟨some name⟩)

/-- What a session can change by a request line. -/
def Confined (session : Session) (line : String) (before : Controller σ)
    (outcome : Except Fault (Response × Session) × Controller σ) : Prop :=
  before.Changes session.user (session.Switches line outcome.1) (IsCompute line) outcome.2

/-- What is done for a logged-in user uses what is permitted for this user. -/
theorem withUser_uses {allowed : Query → Prop} {action : String → Process Response}
    (uses : ∀ user, session.user = some user → (action user).Uses allowed) :
    (session.withUser action >>= fun response => .done (response, session)).Uses allowed := by
  refine Process.Uses.bind ?_ fun response => trivial
  unfold withUser
  split
  · trivial
  · next user held => exact uses user held

/-- Every request but a login uses permitted queries. -/
theorem handleRequest_uses {switches : String → Prop} {computes : Prop} {request : Request}
    (notLogin : ∀ name password, request ≠ .login name password)
    (logout : request = .logout → ∀ name, session.user = some name → switches name)
    (compute : ∀ expression, request = .compute expression → computes) :
    (session.handleRequest line request).Uses
      (Query.Permitted session.user switches computes) := by
  cases request with
  | empty => trivial
  | unknown command => trivial
  | malformed problem => trivial
  | login name password => exact absurd rfl (notLogin name password)
  | logout =>
      show session.logout.Uses _
      unfold Session.logout
      split
      · trivial
      · next user held => exact ⟨logout rfl user held, fun _ => trivial⟩
  | credits => exact withUser_uses fun user _ => ⟨trivial, fun _ => trivial⟩
  | buy amount =>
      refine withUser_uses fun user held => ?_
      unfold buy
      split
      · trivial
      · split
        · exact ⟨held, fun _ => trivial⟩
        · trivial
  | list => exact withUser_uses fun user _ => ⟨trivial, fun _ => trivial⟩
  | compute expression =>
      have computing : computes := compute expression rfl
      refine ⟨computing, fun _ => withUser_uses fun user held => ?_⟩
      unfold Session.compute
      split
      · trivial
      · refine Process.Uses.bind (computeFor_uses ?_ trivial (fun _ => held) _) fun _ => trivial
        intro query evaluates
        cases query with
        | pick _ => exact computing
        | compute _ _ _ _ => exact computing
        | addUsage _ _ => exact computing
        | markOffline _ => exact computing
        | _ => cases evaluates

theorem login_of_held {user : String} (held : session.user = some user) (name password : String) :
    session.login name password = .done (.login .alreadyLoggedIn, session) := by
  unfold login
  rw [held]
  rfl

theorem login_of_anonymous (anonymous : session.user = none) (name password : String) :
    session.login name password = .ask (.login name password) fun outcome =>
      .done (.login outcome, if outcome = .loggedIn then ⟨some name⟩ else session) := by
  unfold login
  rw [anonymous]
  rfl

/-- A login either puts the user that it names online or changes nothing. -/
theorem run_login_cases (link : Link σ) (controller : Controller σ) (session : Session)
    (name password : String) :
    controller.run link (session.login name password) =
        (.ok (.login .loggedIn, ⟨some name⟩),
          { controller with accounts := controller.accounts.setOnline name true }) ∨
      (controller.run link (session.login name password)).2 = controller := by
  cases held : session.user with
  | some user =>
      right
      rw [login_of_held held]
      rfl
  | none =>
      rw [login_of_anonymous held]
      by_cases running : controller.accountsRun = true
      · rw [Controller.run_ask_ok (controller.answer_login link running name password)]
        rcases controller.accounts.login_cases name password with
          ⟨outcome, -, -, after⟩ | ⟨-, after⟩
        · left
          rw [outcome, after]
          rfl
        · right
          rw [after]
          rfl
      · right
        rw [Controller.run_ask_error (controller.answer_login_stopped link running name password)]

/-- A request line changes only what it is about. -/
theorem handle_confined (link : Link σ) (controller : Controller σ) (session : Session)
    (line : String) :
    session.Confined line controller (controller.run link (session.handle line)) := by
  unfold Confined handle
  by_cases login : ∃ name password, Request.ofLine line = .login name password
  · obtain ⟨name, password, request⟩ := login
    rw [request]
    show Controller.Changes _ _ _ controller
      (controller.run link (session.login name password)).2
    rcases run_login_cases link controller session name password with ran | unchanged
    · have switched : session.Switches line (.ok (.login .loggedIn, ⟨some name⟩)) name :=
        .inr ⟨password, request, rfl⟩
      show Controller.Changes _ (session.Switches line
        (controller.run link (session.login name password)).1) _ _ _
      rw [ran]
      exact .ofAccounts (Accounts.sameBut_setOnline switched controller.accounts true) rfl rfl rfl
    · rw [unchanged]
      exact .refl controller
  · apply Controller.changes_run
    apply handleRequest_uses
    · exact fun name password request => login ⟨name, password, request⟩
    · exact fun request name held => .inl ⟨request, held⟩
    · intro expression request
      obtain ⟨parameters, split⟩ :=
        Request.exists_words_of_command? (congrArg Request.command? request)
      rw [IsCompute, split]
      rfl

end Session

end Service

end ArithmeticCloud
