import ArithmeticCloud.Proofs.Service.Mailboxes
import ArithmeticCloud.Proofs.Service.Pending

/-!
Contract: usages stay close together while nodes neither fail nor come or go.

Owns:
- `Traffic.Steadily`: along a run, at most so many evaluations are in progress, every
  node supports every operator that is asked for, sub-operations do not fail and other
  requests leave nodes and usages alone;
- `Traffic.Orderly`, the invariant: sessions and mail are in order, there is room for
  every pick that waits, and the usages are level. Every step keeps it;
- the bound on the spread of the usages after such a run.

Does not own: what happens when a node fails, which gives its charges up.
-/

namespace ArithmeticCloud.Service

open Billing Fleet Network

/-! ## The registry of a running controller -/

namespace Controller

variable {σ : Type} (link : Link σ) (controller : Controller σ)

@[simp] theorem registry_deliver (due : Option Notification) :
    (controller.deliver due).registry = controller.registry := by
  cases due <;> rfl

/-- Questions to the accounts leave the registry alone. -/
theorem registry_answer_of_asksAccounts (running : controller.accountsRun = true) {query : Query}
    (asks : query.asksAccounts = true) :
    (controller.answer link query).2.registry = controller.registry := by
  cases query with
  | login name password => rw [answer_login link controller running]
  | credits name => rw [answer_credits link controller running]
  | adjust name delta => rw [answer_adjust link controller running, registry_deliver]
  | _ => cases asks

section Running

variable (running : controller.registryRuns = true)
include running

theorem tellRegistry_running (change : Registry → Registry) :
    controller.tellRegistry change =
      { controller with registry := change controller.registry } := by
  unfold tellRegistry
  rw [if_pos running]

/-- Questions to the registry leave it as it is. -/
theorem registry_answer_of_asksRegistry {query : Query} (asks : query.asksRegistry = true) :
    (controller.answer link query).2.registry = controller.registry := by
  cases query with
  | availableOperators => simp only [answer, askRegistry, if_pos running]
  | pick operator => simp only [answer, askRegistry, if_pos running]
  | _ => cases asks

theorem answer_pick (operator : Operator) :
    (controller.answer link (.pick operator)).1 =
      .ok (controller.registry.pick? operator) := by
  simp only [answer, askRegistry, if_pos running]

theorem registry_requestRegistry (request : RegistryRequest) :
    (controller.requestRegistry request).2.registry = (controller.registry.handle request).2 := by
  unfold requestRegistry
  split
  · simp only [askRegistry, if_pos running]
  · rw [tellRegistry_running controller running]

end Running

end Controller

/-! ## Sessions that pay -/

/-- What is left of a request pays for the node that the session holds. -/
def Activity.Pays : Activity → Prop
  | .due inquiry | .sent inquiry => Paying inquiry.query.node? (.ask inquiry.query inquiry.next)
  | .answered inquiry answer => Paying (inquiry.query.holds? answer) (inquiry.next answer)
  | _ => True

/-- Mail as it comes while nodes do not fail. -/
def RegistryMail.IsLight : RegistryMail → Prop
  | .question _ => True
  | .addUsage _ amount => amount.toNat ≤ 950
  | .markOffline _ => False

/-- Questions that are no picks give no node. -/
theorem Query.holds?_of_not_evaluates {query : Query} (other : query.evaluates = false)
    (answer : query.Answer) : query.holds? answer = none := by
  cases query with
  | pick operator => cases other
  | compute node left operator right => cases other
  | _ => rfl

theorem Query.not_evaluates {query : Query} (asks : query.asksAccounts = true) :
    query.evaluates = false := by
  cases query with
  | login name password => rfl
  | credits name => rfl
  | adjust name delta => rfl
  | _ => cases asks

namespace Traffic

/-- A session that goes on keeps the node it holds. -/
theorem exists_goOn_eq (traffic : Traffic) (client : Nat) (session : Session) (line : String)
    {process : Process (Response × Session)} {held : Option Endpoint}
    (paying : Paying held process) :
    ∃ new, (traffic.goOn client session line process).1 = traffic.set client new ∧
      new.Pays ∧ new.held? = held ∧ new.wanted? = none := by
  cases process with
  | done result => exact ⟨.idle result.2, rfl, trivial, paying.of_done.symm, rfl⟩
  | ask query next =>
      have same := paying.node?_eq
      refine ⟨.due ⟨session, line, query, next⟩, rfl, ?_, same, rfl⟩
      show Paying query.node? (.ask query next)
      rw [same]
      exact paying

/-! ## Steady runs -/

/-- An event at which no node fails, and none comes, goes or is charged from outside. -/
def IsCalm (traffic : Traffic) : TrafficEvent → Prop
  | .reply _ answer => answer.isOk = true
  | .others request => traffic.controller.registry.Undisturbed request
  | _ => True

instance (traffic : Traffic) (event : TrafficEvent) : Decidable (traffic.IsCalm event) := by
  cases event <;> unfold IsCalm <;> infer_instance

/-- At most so many evaluations are in progress, all nodes support what is asked for,
and the event is calm. -/
def Steady (limit : Nat) (traffic : Traffic) (event : TrafficEvent) : Prop :=
  (positions traffic.sessions fun _ => Activity.evaluates).card ≤ limit ∧
    (∀ activity ∈ traffic.sessions, ∀ operator ∈ activity.wanted?,
      ∀ record ∈ traffic.controller.registry.records,
        record.operators.contains operator = true) ∧
    traffic.IsCalm event

instance (limit : Nat) (traffic : Traffic) (event : TrafficEvent) :
    Decidable (traffic.Steady limit event) :=
  inferInstanceAs (Decidable (_ ∧ _))

/-- It is so at every event of a run. -/
def Steadily (limit : Nat) : Traffic → List TrafficEvent → Prop
  | _, [] => True
  | traffic, event :: others =>
      traffic.Steady limit event ∧
        ∀ reached ∈ traffic.step? event, reached.1.Steadily limit others

instance decidableSteadily (limit : Nat) :
    (traffic : Traffic) → (events : List TrafficEvent) →
      Decidable (traffic.Steadily limit events)
  | _, [] => .isTrue trivial
  | _, _ :: others =>
      @instDecidableAnd _ _ inferInstance
        (@Option.decidableForallMem (Traffic × List Occurrence) _
          (fun reached => decidableSteadily limit reached.1 others) _)

/-! ## The invariant -/

structure Orderly (limit bound : Nat) (traffic : Traffic) : Prop where
  attended : traffic.Attended
  pays : ∀ activity ∈ traffic.sessions, activity.Pays
  light : ∀ mail ∈ traffic.registryMail, mail.IsLight
  online : ∀ record ∈ traffic.controller.registry.records, record.online = true
  distinct : (traffic.controller.registry.records.map NodeRecord.endpoint).Nodup
  queued : Queued limit traffic.registryMail traffic.sessions
  level : Level bound traffic.controller.registry
    (pending traffic.registryMail traffic.sessions)

namespace Orderly

section Steps

variable {limit bound : Nat} {traffic after : Traffic} {client : Nat} {old : Activity}

theorem pays_set (orderly : traffic.Orderly limit bound) (new : Activity) (pays : new.Pays) :
    ∀ activity ∈ traffic.sessions.set client new, activity.Pays := by
  intro activity member
  rcases List.mem_or_eq_of_mem_set member with member | rfl
  · exact orderly.pays activity member
  · exact pays

theorem pays_at (orderly : traffic.Orderly limit bound)
    (found : traffic.sessions[client]? = some old) : old.Pays :=
  orderly.pays old (List.mem_of_getElem? found)

/-- The registry stays as it is. -/
theorem keep (orderly : traffic.Orderly limit bound) (attended : after.Attended)
    (registry : after.controller.registry = traffic.controller.registry)
    (pays : ∀ activity ∈ after.sessions, activity.Pays)
    (light : ∀ mail ∈ after.registryMail, mail.IsLight)
    (queued : Queued limit after.registryMail after.sessions)
    (level : Level bound traffic.controller.registry
      (pending after.registryMail after.sessions)) : after.Orderly limit bound := by
  constructor
  · exact attended
  · exact pays
  · exact light
  · rw [registry]
    exact orderly.online
  · rw [registry]
    exact orderly.distinct
  · exact queued
  · rw [registry]
    exact level

/-! ### Sessions -/

/-- A session changes, and does not come to hold or want a node. -/
theorem replace (orderly : traffic.Orderly limit bound) (attended : after.Attended)
    (found : traffic.sessions[client]? = some old) (new : Activity) (pays : new.Pays)
    (kept : ∀ node, new.held? = some node → old.held? = some node)
    (unwanting : new.wanted? = none)
    (sessions : after.sessions = traffic.sessions.set client new)
    (mail : after.registryMail = traffic.registryMail)
    (registry : after.controller.registry = traffic.controller.registry) :
    after.Orderly limit bound := by
  refine orderly.keep attended registry ?_ ?_ ?_ ?_
  · rw [sessions]
    exact orderly.pays_set new pays
  · rw [mail]
    exact orderly.light
  · rw [mail, sessions]
    refine orderly.queued.set found unwanting fun holds => ?_
    obtain ⟨node, holds⟩ := Option.isSome_iff_exists.mp holds
    rw [kept node holds]
    rfl
  · rw [mail, sessions]
    exact orderly.level.fewer (pending_set_le found kept)

/-- A session goes on, with or without the node that it holds. -/
theorem goOn (orderly : traffic.Orderly limit bound)
    (found : traffic.sessions[client]? = some old) {middle : Traffic} {session : Session}
    {line : String} {process : Process (Response × Session)} {held : Option Endpoint}
    (paying : Paying held process) (kept : held = none ∨ held = old.held?)
    (attended : (middle.goOn client session line process).1.Attended)
    (sessions : middle.sessions = traffic.sessions)
    (mail : middle.registryMail = traffic.registryMail)
    (registry : middle.controller.registry = traffic.controller.registry) :
    (middle.goOn client session line process).1.Orderly limit bound := by
  obtain ⟨new, same, pays, holds, unwanting⟩ :=
    exists_goOn_eq middle client session line paying
  rw [same] at attended ⊢
  refine orderly.replace attended found new pays (fun node isHeld => ?_) unwanting ?_ mail registry
  · rcases kept with rfl | rfl
    · rw [holds] at isHeld
      cases isHeld
    · rw [← holds, isHeld]
  · show middle.sessions.set client new = _
    rw [sessions]

/-- A session posts a question to the registry. -/
theorem ask (orderly : traffic.Orderly limit bound) {inquiry : Inquiry}
    (found : traffic.sessions[client]? = some (.due inquiry))
    (asks : inquiry.query.asksRegistry = true)
    (few : (positions traffic.sessions fun _ => Activity.evaluates).card ≤ limit) :
    ((traffic.set client (.sent inquiry)).postRegistry (.question client)).Orderly
      limit bound := by
  have free : (Activity.sent inquiry).held? = none := by
    show inquiry.query.node? = none
    rcases inquiry with ⟨session, line, query, next⟩
    cases query with
    | availableOperators => rfl
    | pick operator => rfl
    | _ => cases asks
  have unasked : RegistryMail.question client ∉ traffic.registryMail := by
    have silent := orderly.attended.registry client
    have unasking : (Activity.due inquiry).awaits Query.asksRegistry = false := rfl
    rw [found, Option.any_some, unasking, if_neg Bool.false_ne_true] at silent
    exact List.count_eq_zero.mp (Nat.le_zero.mp silent)
  refine orderly.keep (orderly.attended.askRegistry found asks) rfl ?_ ?_ ?_ ?_
  · have paying := orderly.pays_at found
    exact orderly.pays_set (.sent inquiry) paying
  · exact List.forall_mem_append.mpr ⟨orderly.light, List.forall_mem_singleton.mpr trivial⟩
  · exact orderly.queued.post found free unasked Activity.evaluates_of_wanted? few
  · refine orderly.level.fewer fun node => ?_
    show pending (traffic.registryMail ++ [.question client]) _ node ≤ _
    rw [pending_question]
    exact pending_set_le found (fun node holds => by rw [free] at holds; cases holds) node

/-- A session charges the node that it holds. -/
theorem charge (orderly : traffic.Orderly limit bound) {session : Session} {line : String}
    {node : Endpoint} {amount : UInt64} {next : Unit → Process (Response × Session)}
    (found : traffic.sessions[client]? =
      some (.due ⟨session, line, .addUsage node amount, next⟩)) :
    (traffic.act client ⟨session, line, .addUsage node amount, next⟩).1.Orderly limit bound := by
  have attended := act_attended orderly.attended found
  obtain ⟨bounded, paying⟩ := Paying.of_addUsage (orderly.pays_at found)
  obtain ⟨new, same, pays, free, unwanting⟩ :=
    exists_goOn_eq (traffic.postRegistry (.addUsage node amount)) client session line paying
  rw [act, same] at attended ⊢
  refine orderly.keep attended rfl ?_ ?_ ?_ ?_
  · exact orderly.pays_set new pays
  · exact List.forall_mem_append.mpr ⟨orderly.light, List.forall_mem_singleton.mpr bounded⟩
  · exact orderly.queued.charge found unwanting rfl free node amount
  · exact orderly.level.fewer (pending_charge_le found rfl free amount)

theorem act (orderly : traffic.Orderly limit bound) {inquiry : Inquiry}
    (found : traffic.sessions[client]? = some (.due inquiry))
    (few : (positions traffic.sessions fun _ => Activity.evaluates).card ≤ limit) :
    (traffic.act client inquiry).1.Orderly limit bound := by
  have attended := act_attended orderly.attended found
  have pays := orderly.pays_at found
  rcases inquiry with ⟨session, line, query, next⟩
  cases query with
  | login _ _ | credits _ | adjust _ _ | compute _ _ _ _ =>
      exact orderly.replace attended found (.sent _) pays (fun _ => id) rfl rfl rfl rfl
  | availableOperators | pick _ => exact orderly.ask found rfl few
  | logout _ | count _ =>
      exact orderly.goOn found (Paying.of_other pays rfl ()) (.inl rfl) attended rfl rfl rfl
  | addUsage node amount => exact orderly.charge found
  | markOffline node => exact absurd pays Paying.not_markOffline

theorem reply (orderly : traffic.Orderly limit bound) {session : Session} {line : String}
    {node : Endpoint} {left : Int64} {operator : Operator} {right : Int64}
    {next : Except Fault Reply → Process (Response × Session)} {answer : Except Fault Reply}
    (found : traffic.sessions[client]? =
      some (.sent ⟨session, line, .compute node left operator right, next⟩))
    (succeeds : answer.isOk = true) :
    (traffic.set client
      (.answered ⟨session, line, .compute node left operator right, next⟩ answer)).Orderly
        limit bound := by
  let inquiry : Inquiry := ⟨session, line, .compute node left operator right, next⟩
  have attended := orderly.attended.set found rfl rfl (.answered inquiry answer)
  have paying := orderly.pays_at found
  cases answer with
  | error fault => cases succeeds
  | ok reply =>
      cases reply with
      | value number =>
          have pays : (Activity.answered inquiry (.ok (.value number))).Pays :=
            Paying.of_value paying number
          exact orderly.replace attended found _ pays (fun _ => id) rfl rfl rfl rfl
      | divisionByZero =>
          have pays : (Activity.answered inquiry (.ok .divisionByZero)).Pays :=
            Paying.of_divided paying
          exact orderly.replace attended found _ pays (fun _ => nofun) rfl rfl rfl rfl

theorem part (orderly : traffic.Orderly limit bound) {session : Session}
    (found : traffic.sessions[client]? = some (.idle session)) :
    (traffic.part client session).Orderly limit bound := by
  have attended := part_attended orderly.attended found rfl rfl session
  unfold Traffic.part Session.leave at attended ⊢
  rcases session with ⟨user⟩
  cases user with
  | none | some _ =>
      exact orderly.replace attended found .ended trivial (fun _ => nofun) rfl rfl rfl rfl

/-! ### Actors -/

theorem serveAccounts (orderly : traffic.Orderly limit bound) {rest : List AccountsMail}
    (waiting : traffic.accountsMail = .question client :: rest) :
    ({ traffic with accountsMail := rest }.handleQuestion client).Orderly limit bound := by
  obtain ⟨inquiry, answer, found, asks, -, handled, attended⟩ :=
    orderly.attended.accounts_front waiting
  have other := Query.not_evaluates asks
  have free := Query.holds?_of_not_evaluates other answer
  have pays : (Activity.answered inquiry answer).Pays := by
    show Paying (inquiry.query.holds? answer) (inquiry.next answer)
    rw [free]
    exact (orderly.pays_at found).of_other other answer
  rw [handled] at attended ⊢
  refine orderly.replace attended found _ pays (fun node holds => ?_) rfl rfl rfl ?_
  · rw [Activity.held?, free] at holds
    cases holds
  · exact Controller.registry_answer_of_asksAccounts _ _ orderly.attended.accountsRun asks

theorem serveQuestion (orderly : traffic.Orderly limit bound) {rest : List RegistryMail}
    (waiting : traffic.registryMail = .question client :: rest) (enough : 950 * limit ≤ bound)
    (able : ∀ activity ∈ traffic.sessions, ∀ operator ∈ activity.wanted?,
      ∀ record ∈ traffic.controller.registry.records,
        record.operators.contains operator = true) :
    ({ traffic with registryMail := rest }.handleQuestion client).Orderly limit bound := by
  obtain ⟨inquiry, answer, found, asks, answered, handled, attended⟩ :=
    orderly.attended.registry_front waiting
  have paying := orderly.pays_at found
  have light := orderly.light
  have queued := orderly.queued
  have level := orderly.level
  have registry := Controller.registry_answer_of_asksRegistry .inPlace traffic.controller
    orderly.attended.registryRuns asks
  rw [handled] at attended ⊢
  rw [waiting] at light queued level
  rw [List.forall_mem_cons] at light
  rcases inquiry with ⟨session, line, query, next⟩
  cases query with
  | availableOperators =>
      let new : Activity := .answered ⟨session, line, .availableOperators, next⟩ answer
      have free (node : Endpoint) : new.held? ≠ some node := nofun
      refine orderly.keep attended registry (orderly.pays_set _ ?_) light.2
        (queued.tail.set found rfl ?_) (level.fewer fun node => ?_)
      · exact Paying.of_other paying rfl answer
      · exact nofun
      · rw [pending_cons_question]
        exact pending_set_le found (fun node holds => absurd holds (free node)) node
  | pick operator =>
      have picked := Controller.answer_pick .inPlace traffic.controller
        orderly.attended.registryRuns operator
      obtain rfl := Except.ok.inj (answered.symm.trans picked)
      have serves : ∀ record ∈ traffic.controller.registry.records,
          record.serves operator = true := by
        intro record member
        have supports := able _ (List.mem_of_getElem? found) operator rfl record member
        rw [NodeRecord.serves, orderly.online record member, supports]
        rfl
      -- A charge that is pending is held by a session or is behind this pick.
      have room (node : Endpoint) :
          pending (.question client :: rest) traffic.sessions node + 1 ≤ limit := by
        have enters := queued [] client rest rfl ((mem_positions_self found).mpr rfl)
        have atMost := pending_le_competing rest traffic.sessions node
        rw [pending_cons_question]
        omega
      refine orderly.keep attended registry (orderly.pays_set _ ?_) light.2
        (queued.take found rfl rfl)
        (level.pick enough orderly.distinct serves (fun node => ?_) room)
      · exact Paying.of_pick paying _
      · rw [pending_cons_question]
        exact pending_set_le_add found node
  | _ => cases asks

/-- The registry handles a request, after which all nodes are online. -/
theorem handle (orderly : traffic.Orderly limit bound) (request : RegistryRequest)
    (attended : after.Attended) (sessions : after.sessions = traffic.sessions)
    (light : ∀ mail ∈ after.registryMail, mail.IsLight)
    (queued : Queued limit after.registryMail traffic.sessions)
    (registry : after.controller.registry = (traffic.controller.registry.handle request).2)
    (online : ∀ record ∈ (traffic.controller.registry.handle request).2.records,
      record.online = true)
    (level : Level bound (traffic.controller.registry.handle request).2
      (pending after.registryMail traffic.sessions)) : after.Orderly limit bound := by
  constructor
  · exact attended
  · rw [sessions]
    exact orderly.pays
  · exact light
  · rw [registry]
    exact online
  · rw [registry]
    exact Registry.nodup_endpoints_handle _ orderly.distinct request
  · rw [sessions]
    exact queued
  · rw [sessions, registry]
    exact level

theorem settle (orderly : traffic.Orderly limit bound) {node : Endpoint} {amount : UInt64}
    {rest : List RegistryMail} (waiting : traffic.registryMail = .addUsage node amount :: rest)
    (attended : after.Attended) (sessions : after.sessions = traffic.sessions)
    (mailbox : after.registryMail = rest)
    (registry : after.controller.registry = traffic.controller.registry.addUsage node amount) :
    after.Orderly limit bound := by
  have light := orderly.light
  have queued := orderly.queued
  have level := orderly.level
  rw [waiting] at light queued level
  rw [List.forall_mem_cons] at light
  refine orderly.handle (.addUsage node amount) attended sessions ?_ ?_ registry ?_ ?_
  · rw [mailbox]
    exact light.2
  · rw [mailbox]
    exact queued.tail
  · intro record member
    obtain ⟨old, oldMember, rfl⟩ := List.mem_map.mp member
    split
    · exact orderly.online old oldMember
    · exact orderly.online old oldMember
  · rw [mailbox]
    exact (level.fewer fun other => (pending_cons_charge _ _ _ _ other).ge).settle light.1

theorem refresh (orderly : traffic.Orderly limit bound) {request : RegistryRequest}
    (undisturbed : traffic.controller.registry.Undisturbed request) (attended : after.Attended)
    (sessions : after.sessions = traffic.sessions)
    (mailbox : after.registryMail = traffic.registryMail)
    (registry : after.controller.registry = (traffic.controller.registry.handle request).2) :
    after.Orderly limit bound := by
  have records := Registry.records_handle_of_undisturbed undisturbed
  refine orderly.handle request attended sessions ?_ ?_ registry ?_ ?_
  · rw [mailbox]
    exact orderly.light
  · rw [mailbox]
    exact orderly.queued
  · rw [records]
    intro record member
    obtain ⟨old, oldMember, rfl⟩ := List.mem_map.mp member
    exact (Registry.revise_of_undisturbed undisturbed oldMember).2 (orderly.online old oldMember)
  · rw [mailbox]
    refine orderly.level.mono fun record member => ?_
    rw [records] at member
    obtain ⟨old, oldMember, rfl⟩ := List.mem_map.mp member
    have same := (Registry.revise_of_undisturbed undisturbed oldMember).1
    rw [same, RegistryRequest.endpoint_revise]
    exact ⟨old, oldMember, Nat.le_refl _, Nat.le_refl _⟩

/-! ### Runs -/

theorem step {event : TrafficEvent} {occurrences : List Occurrence}
    (orderly : traffic.Orderly limit bound) (enough : 950 * limit ≤ bound)
    (steady : traffic.Steady limit event)
    (stepped : traffic.step? event = some (after, occurrences)) : after.Orderly limit bound := by
  obtain ⟨few, able, calm⟩ := steady
  have attended := step_attended orderly.attended stepped
  cases moves_of_step? stepped with
  | @request client session line found =>
      exact orderly.goOn found (handle_paying session line) (.inl rfl) attended rfl rfl rfl
  | leave found => exact orderly.part found
  | act found => exact orderly.act found few
  | reply answer found => exact orderly.reply found calm
  | resume found => exact orderly.goOn found (orderly.pays_at found) (.inr rfl) attended rfl rfl rfl
  | accountsQuestion waiting => exact orderly.serveAccounts waiting
  | @logout name rest waiting =>
      rw [Controller.tellAccounts_running _ orderly.attended.accountsRun] at attended ⊢
      exact ⟨attended, orderly.pays, orderly.light, orderly.online, orderly.distinct,
        orderly.queued, orderly.level⟩
  | registryQuestion waiting => exact orderly.serveQuestion waiting enough able
  | addUsage waiting =>
      refine orderly.settle waiting attended rfl rfl ?_
      rw [Controller.tellRegistry_running _ orderly.attended.registryRuns]
  | markOffline waiting =>
      have light := orderly.light
      rw [waiting, List.forall_mem_cons] at light
      exact light.1.elim
  | others request =>
      refine orderly.refresh calm attended rfl rfl ?_
      exact Controller.registry_requestRegistry _ orderly.attended.registryRuns request

theorem run {events : List TrafficEvent} {record : List Occurrence}
    (orderly : traffic.Orderly limit bound) (enough : 950 * limit ≤ bound)
    (steadily : traffic.Steadily limit events)
    (ran : traffic.run? events = some (after, record)) : after.Orderly limit bound := by
  induction events generalizing traffic record with
  | nil =>
      obtain ⟨rfl, -⟩ := Prod.mk.inj (Option.some.inj ran)
      exact orderly
  | cons event others inductionHypothesis =>
      obtain ⟨middle, occurrences, later, stepped, rest, -⟩ := run?_cons ran
      obtain ⟨steady, onward⟩ := steadily
      exact inductionHypothesis (orderly.step enough steady stepped) (onward _ stepped) rest

/-- At the start no charge is under way. -/
theorem start (ceiling : UInt64) (users : List User) {registry : Registry} (clients : Nat)
    (online : ∀ record ∈ registry.records, record.online = true)
    (distinct : (registry.records.map NodeRecord.endpoint).Nodup)
    (apart : registry.spread ≤ bound) :
    (start ceiling users registry clients).Orderly limit bound := by
  have idle : ∀ activity ∈ (Traffic.start ceiling users registry clients).sessions,
      activity = .idle .anonymous := fun activity member => (List.mem_replicate.mp member).2
  constructor
  · exact .start ceiling users registry clients
  · intro activity member
    rw [idle activity member]
    trivial
  · exact fun _ member => nomatch member
  · exact online
  · exact distinct
  · exact .nil limit _
  · intro record member other otherMember
    have within := Registry.spread_le_iff.mp apart record member other otherMember
    have none : pending [] (Traffic.start ceiling users registry clients).sessions
        record.endpoint = 0 := by
      rw [pending, List.countP_nil, Nat.add_zero, Finset.card_eq_zero,
        Finset.eq_empty_iff_forall_notMem]
      intro position holds
      obtain ⟨activity, found, held⟩ := mem_positions.mp holds
      rw [idle activity (List.mem_of_getElem? found)] at held
      cases held
    show _ + 950 * pending [] _ _ ≤ _
    rw [none]
    omega

theorem spread_le (orderly : traffic.Orderly limit bound) :
    traffic.controller.registry.spread ≤ bound := by
  refine Registry.spread_le_iff.mpr fun record member other otherMember => ?_
  have within := orderly.level record member other otherMember
  omega

end Steps

end Orderly

/-! ## The bound -/

/-- While all nodes stay online and support what is asked for, and at most `limit`
evaluations are in progress at once, the largest and the smallest usage are never further
apart than at the start, or than `limit` results of 19 characters, which is what the
longest result has. -/
theorem usages_stay_close {limit clients : Nat} (ceiling : UInt64) (users : List User)
    (requests : List RegistryRequest) {events : List TrafficEvent} {traffic : Traffic}
    {record : List Occurrence}
    (online : ∀ record ∈ (Registry.after requests).records, record.online = true)
    (steadily : (start ceiling users (Registry.after requests) clients).Steadily limit events)
    (ran : (start ceiling users (Registry.after requests) clients).run? events =
      some (traffic, record)) :
    traffic.controller.registry.spread ≤
        max (Registry.after requests).spread (950 * limit) ∧
      ∀ number : Int64, (Reply.value number).digitCount ≤ 19 := by
  have started : (start ceiling users (Registry.after requests) clients).Orderly limit
      (max (Registry.after requests).spread (950 * limit)) :=
    .start ceiling users clients online (Registry.nodup_endpoints_after requests)
      (Nat.le_max_left _ _)
  have orderly := started.run (Nat.le_max_right _ _) steadily ran
  exact ⟨orderly.spread_le, digitCount_value_le⟩

/-- Two evaluations are given the same node before either has charged it. Both results have
19 digits, so the usages end as far apart as two evaluations can bring them. -/
theorem usages_stay_close_attained :
    ∃ traffic record,
      (start 300 [⟨"alice", "12345", 60⟩, ⟨"bill", "23456", 60⟩]
        (Registry.after [.upsert (.v4 .loopback) 7000 .all 0, .upsert (.v4 .loopback) 7001 .all 0])
        2).run?
        [.request 0 "!login alice 12345", .act 0, .serveAccounts, .resume 0,
          .request 1 "!login bill 23456", .act 1, .serveAccounts, .resume 1,
          .request 0 "!compute 1 - 2", .act 0, .act 0, .serveAccounts, .resume 0, .act 0,
          .request 1 "!compute 3 - 4", .act 1, .act 1, .serveAccounts, .resume 1, .act 1,
          .serveRegistry, .resume 0, .act 0, .serveRegistry, .resume 1, .act 1,
          .reply 0 (.ok (.value Int64.minValue)), .resume 0, .act 0,
          .reply 1 (.ok (.value Int64.maxValue)), .resume 1, .act 1,
          .serveRegistry, .serveRegistry] = some (traffic, record) ∧
      traffic.controller.registry.spread = 950 * 2 ∧
      traffic.controller.registry.spread ≤ max 0 (950 * 2) ∧
      ∀ number : Int64, (Reply.value number).digitCount ≤ 19 := by
  have possible : ((start 300 [⟨"alice", "12345", 60⟩, ⟨"bill", "23456", 60⟩]
      (Registry.after [.upsert (.v4 .loopback) 7000 .all 0, .upsert (.v4 .loopback) 7001 .all 0])
      2).run?
        [.request 0 "!login alice 12345", .act 0, .serveAccounts, .resume 0,
          .request 1 "!login bill 23456", .act 1, .serveAccounts, .resume 1,
          .request 0 "!compute 1 - 2", .act 0, .act 0, .serveAccounts, .resume 0, .act 0,
          .request 1 "!compute 3 - 4", .act 1, .act 1, .serveAccounts, .resume 1, .act 1,
          .serveRegistry, .resume 0, .act 0, .serveRegistry, .resume 1, .act 1,
          .reply 0 (.ok (.value Int64.minValue)), .resume 0, .act 0,
          .reply 1 (.ok (.value Int64.maxValue)), .resume 1, .act 1,
          .serveRegistry, .serveRegistry]).any
            (fun reached => reached.1.controller.registry.spread = 950 * 2) = true := by
    decide +kernel
  obtain ⟨⟨traffic, record⟩, ran, apart⟩ := (Option.any_eq_true _ _).mp possible
  exact ⟨traffic, record, ran, of_decide_eq_true apart,
    usages_stay_close 300 [⟨"alice", "12345", 60⟩, ⟨"bill", "23456", 60⟩]
      [.upsert (.v4 .loopback) 7000 .all 0, .upsert (.v4 .loopback) 7001 .all 0]
      (by decide +kernel) (by decide +kernel) ran⟩

end Traffic

end ArithmeticCloud.Service
