import ArithmeticCloud.Proofs.Service.Effects
import ArithmeticCloud.Proofs.Service.Payments
import ArithmeticCloud.Service.NodeLink

/-!
Contract: requests of a client that are refused.

Owns:
- `Refuses`, the reasons for which a request is refused, each with its response;
- `Process.Declines`, a process that comes to its result without a query that changes
  what is shared, other than the statistics;
- that refused requests are such processes, and that no other request is answered with
  a refusal.

Does not own: what requests change that are not refused.
-/

namespace ArithmeticCloud.Service

open Billing Fleet Network Text

/-! ## Reasons -/

/-- Whether only a logged-in user can make the request. -/
def Request.needsUser : Request → Bool
  | .logout | .credits | .buy _ | .list | .compute _ => true
  | _ => false

/-- The request of a session is refused with the response. -/
inductive Refuses (accounts : Accounts) (session : Session) : Request → Response → Prop where
  | empty : Refuses accounts session .empty .emptyRequest
  | unknown (command : String) :
      Refuses accounts session (.unknown command) (.unknownCommand command)
  | malformed (problem : ArityProblem) :
      Refuses accounts session (.malformed problem) (.malformed problem)
  | notLoggedIn {request : Request} (anonymous : session.user = none)
      (needsUser : request.needsUser = true) : Refuses accounts session request .notLoggedIn
  | occupied {user : String} (name password : String) (held : session.user = some user) :
      Refuses accounts session (.login name password) (.login .alreadyLoggedIn)
  | alreadyLoggedIn {account : Account} (name : String) (anonymous : session.user = none)
      (found : accounts.find? name = some account) (online : account.online = true) :
      Refuses accounts session (.login name account.password) (.login .alreadyLoggedIn)
  | wrongCredentials (name password : String) (anonymous : session.user = none)
      (wrong : ∀ account, accounts.find? name = some account → account.password ≠ password) :
      Refuses accounts session (.login name password) (.login .wrongCredentials)
  | notANumber {user : String} {amount : Word} (held : session.user = some user)
      (unread : int64? amount = none) : Refuses accounts session (.buy amount) .amountNotANumber
  | notPositive {user : String} {amount : Word} {value : Int64} (held : session.user = some user)
      (read : int64? amount = some value) (notPositive : value ≤ 0) :
      Refuses accounts session (.buy amount) .amountNotPositive
  | invalidExpression {user : String} {words : List Word} (held : session.user = some user)
      (unread : Expression.ofWords? words = none) :
      Refuses accounts session (.compute words) .invalidExpression
  | notEnoughCredits {user : String} {words : List Word} {expression : Expression}
      (held : session.user = some user) (read : Expression.ofWords? words = some expression)
      (poor : (accounts.credits? user).getD 0 < price expression.subOperations) :
      Refuses accounts session (.compute words) (.computed .notEnoughCredits)

/-- Whether a response says that nothing was done. -/
def Response.isRefusal : Response → Bool
  | .emptyRequest | .unknownCommand _ | .malformed _ | .notLoggedIn | .amountNotANumber
  | .amountNotPositive | .invalidExpression | .computed .notEnoughCredits => true
  | .login outcome => outcome ≠ .loggedIn
  | .loggedOut | .creditsLeft _ | .creditsNow _ | .operators _ | .computed (.evaluated _) => false

theorem Refuses.isRefusal {accounts : Accounts} {session : Session} {request : Request}
    {response : Response} (refuses : Refuses accounts session request response) :
    response.isRefusal = true := by
  cases refuses <;> rfl

/-! ## Processes that decline -/

/-- The answer to a query that changes nothing but the statistics, as long as the accounts run. -/
def Query.quiet? (accounts : Accounts) : (query : Query) → Option query.Answer
  | .count _ => some ()
  | .credits name => some (accounts.credits? name)
  | .login name password =>
      if (accounts.login name password).1 = .loggedIn then none
      else some (accounts.login name password).1
  | _ => none

/-- While the accounts are as they are, the process comes to the result by quiet queries. -/
def Process.Declines {α : Type} (accounts : Accounts) (result : α) : Process α → Prop
  | .done found => found = result
  | .ask query next =>
      ∃ answer, query.quiet? accounts = some answer ∧ (next answer).Declines accounts result

theorem Query.evaluates_of_quiet? {accounts : Accounts} {query : Query} {answer : query.Answer}
    (quiet : query.quiet? accounts = some answer) : query.evaluates = false := by
  cases query <;> first | rfl | cases quiet

namespace Controller

variable {σ α : Type} {link : Link σ}

/-- The queries of a run, each with the controller that it finds. -/
def trail (link : Link σ) : Process α → Controller σ → List (Query × Controller σ)
  | .done _, _ => []
  | .ask query next, controller =>
      (query, controller) ::
        match controller.answer link query with
        | (.ok found, controller) => trail link (next found) controller
        | (.error _, _) => []

/-- The notification that `answer` delivers for a query. -/
def due? (controller : Controller σ) : Query → Option Notification
  | .adjust name delta =>
      if controller.accountsRun then (controller.accounts.adjust name delta).2.1 else none
  | _ => none

theorem due?_of_quiet? {accounts : Accounts} {query : Query} {answer : query.Answer}
    (quiet : query.quiet? accounts = some answer) (controller : Controller σ) :
    controller.due? query = none := by
  cases query <;> first | rfl | cases quiet

/-- Unless the accounts have stopped, a quiet query is answered, and changes the statistics at
most. -/
theorem answer_quiet (link : Link σ) (controller : Controller σ) {query : Query}
    {found : query.Answer}
    (quiet : query.quiet? controller.accounts = some found) :
    (∃ statistics, controller.answer link query =
        (.ok found, { controller with statistics := statistics })) ∨
      ¬ controller.accountsRun = true ∧
        ∃ fault, controller.answer link query = (.error fault, controller) := by
  cases query with
  | count line => exact .inl ⟨_, rfl⟩
  | credits name =>
      obtain rfl := Option.some.inj quiet
      by_cases running : controller.accountsRun = true
      · exact .inl ⟨controller.statistics, answer_credits link controller running name⟩
      · exact .inr ⟨running, _, answer_credits_stopped link controller running name⟩
  | login name password =>
      by_cases running : controller.accountsRun = true
      · left
        rw [answer_login link controller running]
        rcases controller.accounts.login_cases name password with
          ⟨outcome, -, -, -⟩ | ⟨outcome, after⟩
        · simp [Query.quiet?, outcome] at quiet
        · rw [Query.quiet?, if_neg outcome] at quiet
          obtain rfl := Option.some.inj quiet
          exact ⟨controller.statistics, by rw [after]⟩
      · exact .inr ⟨running, _, answer_login_stopped link controller running name password⟩
  | _ => cases quiet

/-- The run of a process leaves all but the statistics as it was, calls no node and brings about
no notification. It comes to the result unless the accounts have stopped. -/
structure Declined (link : Link σ) (process : Process α) (controller : Controller σ) (result : α) :
    Prop where
  kept : ∃ statistics,
    (controller.run link process).2 = { controller with statistics := statistics }
  uncalled : ∀ step ∈ controller.trail link process, step.1.evaluates = false
  unsent : ∀ step ∈ controller.trail link process, step.2.due? step.1 = none
  ends : (controller.run link process).1 = .ok result ∨
    ¬ controller.accountsRun = true ∧ ∃ fault, (controller.run link process).1 = .error fault

theorem declined_of_declines {process : Process α} {controller : Controller σ} {result : α}
    (declines : process.Declines controller.accounts result) :
    Declined link process controller result := by
  induction process generalizing controller with
  | done found =>
      obtain rfl : found = result := declines
      exact ⟨⟨controller.statistics, rfl⟩, List.forall_mem_nil _, List.forall_mem_nil _, .inl rfl⟩
  | ask query next inductionHypothesis =>
      obtain ⟨found, quiet, rest⟩ := declines
      have called : query.evaluates = false := Query.evaluates_of_quiet? quiet
      have sent : controller.due? query = none := due?_of_quiet? quiet controller
      rcases controller.answer_quiet link quiet with
        ⟨statistics, answered⟩ | ⟨stopped, fault, answered⟩
      · have declined : Declined link (next found) { controller with statistics := statistics }
            result := inductionHypothesis found rest
        obtain ⟨⟨later, kept⟩, uncalled, unsent, ends⟩ := declined
        refine ⟨⟨later, ?_⟩, ?_, ?_, ?_⟩
        · rw [run_ask_ok answered, kept]
        · rw [trail, answered]
          exact List.forall_mem_cons.mpr ⟨called, uncalled⟩
        · rw [trail, answered]
          exact List.forall_mem_cons.mpr ⟨sent, unsent⟩
        · rw [run_ask_ok answered]
          exact ends
      · refine ⟨⟨controller.statistics, ?_⟩, ?_, ?_, .inr ⟨stopped, fault, ?_⟩⟩
        · rw [run_ask_error answered]
        · rw [trail, answered]
          exact List.forall_mem_singleton.mpr called
        · rw [trail, answered]
          exact List.forall_mem_singleton.mpr sent
        · rw [run_ask_error answered]

end Controller

/-! ## Requests -/

namespace Session

variable {session : Session}

theorem withUser_of_anonymous (anonymous : session.user = none)
    (action : String → Process Response) : session.withUser action = .done .notLoggedIn := by
  unfold withUser
  rw [anonymous]

theorem withUser_of_held {user : String} (held : session.user = some user)
    (action : String → Process Response) : session.withUser action = action user := by
  unfold withUser
  rw [held]

theorem logout_of_anonymous (anonymous : session.user = none) :
    session.logout = .done (.notLoggedIn, session) := by
  unfold logout
  rw [anonymous]

end Session

section Requests

variable {σ : Type} {accounts : Accounts} {session : Session} {request : Request}
  {response : Response}

/-- Whatever the reason, a request that is refused asks quiet queries only. -/
theorem Refuses.declines (refuses : Refuses accounts session request response) (line : String) :
    (session.handleRequest line request).Declines accounts (response, session) := by
  cases refuses with
  | empty => rfl
  | unknown command => rfl
  | malformed problem => rfl
  | notLoggedIn anonymous needsUser =>
      cases request with
      | logout =>
          show session.logout.Declines _ _
          rw [Session.logout_of_anonymous anonymous]
          rfl
      | credits | buy | list =>
          rw [Session.handleRequest, Session.withUser_of_anonymous anonymous]
          rfl
      | compute words =>
          rw [Session.handleRequest, Session.withUser_of_anonymous anonymous]
          exact ⟨(), rfl, rfl⟩
      | _ => cases needsUser
  | occupied name password held =>
      show (session.login name password).Declines _ _
      rw [Session.login_of_held held]
      rfl
  | @alreadyLoggedIn account name anonymous found online =>
      show (session.login name account.password).Declines _ _
      have outcome := (accounts.login_eq_alreadyLoggedIn_iff name account.password).mpr
        ⟨account, found, rfl, online⟩
      rw [Session.login_of_anonymous anonymous]
      refine ⟨.alreadyLoggedIn, ?_, rfl⟩
      simp [Query.quiet?, outcome]
  | wrongCredentials name password anonymous wrong =>
      show (session.login name password).Declines _ _
      have outcome := (accounts.login_eq_wrongCredentials_iff name password).mpr wrong
      rw [Session.login_of_anonymous anonymous]
      refine ⟨.wrongCredentials, ?_, rfl⟩
      simp [Query.quiet?, outcome]
  | notANumber held unread =>
      rw [Session.handleRequest, Session.withUser_of_held held, Session.buy, unread]
      rfl
  | notPositive held read notPositive =>
      rw [Session.handleRequest, Session.withUser_of_held held, Session.buy, read]
      dsimp only
      rw [if_neg (Int64.not_lt.mpr notPositive)]
      rfl
  | invalidExpression held unread =>
      rw [Session.handleRequest, Session.withUser_of_held held, Session.compute, unread]
      exact ⟨(), rfl, rfl⟩
  | notEnoughCredits held read poor =>
      rw [Session.handleRequest, Session.withUser_of_held held, Session.compute, read]
      refine ⟨(), rfl, accounts.credits? _, rfl, ?_⟩
      show Process.Declines _ _
        ((if (accounts.credits? _).getD 0 < price _ then .done ComputeOutcome.notEnoughCredits
          else _) >>= _ >>= _)
      rw [if_pos poor]
      rfl

/-! ## Responses that refuse -/

/-- A response that is no refusal, or one with a reason. -/
def Response.Justified (accounts : Accounts) (session : Session) (request : Request)
    (response : Response) : Prop :=
  response.isRefusal = true → Refuses accounts session request response

/-- What is done for a logged-in user is refused for want of one, or for its own reasons. -/
theorem withUser_justified (needsUser : request.needsUser = true)
    {action : String → Process Response}
    (justified : ∀ user, session.user = some user →
      (action user).Ends (·.Justified accounts session request)) :
    (session.withUser action >>= fun response => .done (response, session)).Ends
      (·.1.Justified accounts session request) := by
  refine Process.Ends.bind ?_ fun response => id
  cases held : session.user with
  | none =>
      rw [Session.withUser_of_anonymous held]
      exact fun _ => .notLoggedIn held needsUser
  | some user =>
      rw [Session.withUser_of_held held]
      exact justified user held

/-- Unless the answer of the accounts decides, a response is justified whatever the answers. -/
theorem handleRequest_justified (line : String)
    (notLogin : ∀ name password, request ≠ .login name password)
    (notRead : ∀ words user, request = .compute words → session.user = some user →
      Expression.ofWords? words = none) :
    (session.handleRequest line request).Ends (·.1.Justified accounts session request) := by
  cases request with
  | empty => exact fun _ => .empty
  | unknown command => exact fun _ => .unknown command
  | malformed problem => exact fun _ => .malformed problem
  | login name password => exact absurd rfl (notLogin name password)
  | logout =>
      show session.logout.Ends _
      cases held : session.user with
      | none =>
          rw [Session.logout_of_anonymous held]
          exact fun _ => .notLoggedIn held rfl
      | some user =>
          unfold Session.logout
          rw [held]
          exact fun _ => nofun
  | credits => exact withUser_justified rfl fun user held balance => nofun
  | buy amount =>
      refine withUser_justified rfl fun user held => ?_
      unfold Session.buy
      split
      · next unread => exact fun _ => .notANumber held unread
      · next value read =>
          split
          · exact fun balance => nofun
          · next notPositive => exact fun _ => .notPositive held read (Int64.not_lt.mp notPositive)
  | list => exact withUser_justified rfl fun user held available => nofun
  | compute words =>
      refine fun counted => withUser_justified rfl fun user held => ?_
      have unread : Expression.ofWords? words = none := notRead words user rfl held
      rw [Session.compute, unread]
      exact fun _ => .invalidExpression held unread

/-- A login that fails has a reason. -/
theorem login_justified (link : Link σ) {controller after : Controller σ} {session : Session}
    {name password : String} {result : Response × Session}
    (ran : controller.run link (session.login name password) = (.ok result, after)) :
    result.1.Justified controller.accounts session (.login name password) := by
  intro refusal
  cases held : session.user with
  | some user =>
      rw [Session.login_of_held held] at ran
      obtain rfl := Except.ok.inj (Prod.mk.inj ran).1
      exact .occupied name password held
  | none =>
      rw [Session.login_of_anonymous held] at ran
      by_cases running : controller.accountsRun = true
      · rw [Controller.run_ask_ok (controller.answer_login link running name password)] at ran
        obtain rfl := Except.ok.inj (Prod.mk.inj ran).1
        dsimp only at refusal ⊢
        cases outcome : (controller.accounts.login name password).1 with
        | loggedIn => simp [outcome, Response.isRefusal] at refusal
        | alreadyLoggedIn =>
            obtain ⟨account, found, rfl, online⟩ :=
              (controller.accounts.login_eq_alreadyLoggedIn_iff name password).mp outcome
            exact .alreadyLoggedIn name held found online
        | wrongCredentials =>
            exact .wrongCredentials name password held
              ((controller.accounts.login_eq_wrongCredentials_iff name password).mp outcome)
      · rw [Controller.run_ask_error (controller.answer_login_stopped link running name password)]
          at ran
        cases ran

/-- An expression that is read is refused only to a user who cannot pay for it. -/
theorem poor_of_run_computeFor (link : Link σ) {controller after : Controller σ} {user : String}
    {expression : Expression}
    (ran : controller.run link (computeFor user expression) = (.ok .notEnoughCredits, after)) :
    (controller.accounts.credits? user).getD 0 < price expression.subOperations := by
  rw [computeFor_eq] at ran
  by_cases running : controller.accountsRun = true
  · rw [Controller.run_ask_ok (controller.answer_credits link running user)] at ran
    by_contra rich
    rw [if_neg rich] at ran
    have admitted : (evaluate expression >>= fun evaluation =>
        if 0 < evaluation.attempted then
          Process.ask (.adjust user (-price evaluation.attempted)) fun _ =>
            .done (.evaluated evaluation.result)
        else .done (.evaluated evaluation.result)).Ends (· ≠ ComputeOutcome.notEnoughCredits) := by
      refine (Process.ends_of_forall (fun _ => trivial) _).bind fun evaluation (_ : True) => ?_
      split
      · exact fun _ => nofun
      · nofun
    exact Controller.run_ends admitted ran rfl
  · rw [Controller.run_ask_error (controller.answer_credits_stopped link running user)] at ran
    cases ran

theorem compute_justified (link : Link σ) {controller after : Controller σ} {session : Session}
    {user line : String} {words : List Word} {expression : Expression}
    {result : Response × Session} (held : session.user = some user)
    (read : Expression.ofWords? words = some expression)
    (ran : controller.run link (session.handleRequest line (.compute words)) =
      (.ok result, after)) :
    result.1.Justified controller.accounts session (.compute words) := by
  intro refusal
  rw [Session.handleRequest, Session.withUser_of_held held, Session.compute, read] at ran
  obtain ⟨noted, counted, count, asked⟩ := Controller.run_bind_ok ran
  obtain ⟨-, rfl⟩ := Prod.mk.inj count
  obtain ⟨response, between, responded, last⟩ := Controller.run_bind_ok asked
  obtain ⟨outcome, paid, computed, answered⟩ := Controller.run_bind_ok responded
  obtain rfl := Except.ok.inj (Prod.mk.inj answered).1
  obtain rfl := Except.ok.inj (Prod.mk.inj last).1
  cases outcome with
  | evaluated evaluation => cases refusal
  | notEnoughCredits =>
      have poor := poor_of_run_computeFor link computed
      exact .notEnoughCredits held read poor

/-- Every response that refuses has a reason. -/
theorem justified_of_run (link : Link σ) {controller after : Controller σ} {session : Session}
    {line : String} {result : Response × Session}
    (ran : controller.run link (session.handleRequest line request) = (.ok result, after)) :
    result.1.Justified controller.accounts session request := by
  by_cases login : ∃ name password, request = .login name password
  · obtain ⟨name, password, rfl⟩ := login
    exact login_justified link ran
  by_cases admitted : ∃ words user expression, request = .compute words ∧
      session.user = some user ∧ Expression.ofWords? words = some expression
  · obtain ⟨words, user, expression, rfl, held, read⟩ := admitted
    exact compute_justified link held read ran
  · refine Controller.run_ends (handleRequest_justified line ?_ ?_) ran
    · exact fun name password same => login ⟨name, password, same⟩
    · intro words user same held
      rw [Option.eq_none_iff_forall_ne_some]
      exact fun expression read => admitted ⟨words, user, expression, same, held, read⟩

end Requests

/-! ## Lines of a client -/

/-- A request line changes only what it is about: the balance and the subscription of the
session's user; who is online by a logout of that user, or by a login that succeeds; and the
nodes, their records and the statistics by a compute request, where records only wear. A line
with a reason to be refused changes nothing but the statistics, and calls no node and notifies
nobody. A response refuses a line exactly if there is such a reason. -/
theorem lines_have_confined_effects {σ : Type} (link : Link σ) (controller : Controller σ)
    (session : Session) (line : String) :
    session.Confined line controller (controller.run link (session.handle line)) ∧
    (∀ response, Refuses controller.accounts session (Request.ofLine line) response →
      Controller.Declined link (session.handle line) controller (response, session)) ∧
    (∀ response reached after,
      controller.run link (session.handle line) = (.ok (response, reached), after) →
      (response.isRefusal = true ↔
        Refuses controller.accounts session (Request.ofLine line) response)) := by
  refine ⟨session.handle_confined link controller line, ?_, ?_⟩
  · intro response refuses
    exact Controller.declined_of_declines (refuses.declines line)
  · intro response reached after ran
    exact ⟨justified_of_run link ran, Refuses.isRefusal⟩

/-- A computation that cannot be paid for is counted, and nothing else. -/
example :
    let controller := Controller.start 100 [⟨"alice", "secret", 49⟩] ()
    let outcome := controller.run Link.inPlace (Session.handle ⟨some "alice"⟩ "!compute 2 + 3")
    outcome.1 = .ok (.computed .notEnoughCredits, ⟨some "alice"⟩) ∧
      outcome.2.accounts = controller.accounts ∧ outcome.2.statistics.count .add = 1 := by
  decide +kernel

end ArithmeticCloud.Service
