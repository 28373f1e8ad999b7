import ArithmeticCloud.Proofs.Service.Answers
import ArithmeticCloud.Proofs.Service.Traffic
import Mathlib.Data.List.Basic

/-!
Contract: who is logged in, while requests, answers and logouts are under way.

Owns:
- `Faithful`, how a request may change the user of its session: by its last query
  only, and as the answer says;
- `Traffic.Occupied`: a user is online as long as one session holds the user, one
  successful login is on its way, or one logout waits in the mailbox, and there
  is never more than one of these. Every step keeps it.

Does not own: balances.
-/

namespace ArithmeticCloud.Service

open Billing Fleet Network

/-! ## The user of a session during a request -/

/-- What is left of a request changes its session by its last query only. -/
inductive Faithful (session : Session) : Process (Response × Session) → Prop where
  | done (response : Response) : Faithful session (.done (response, session))
  | login (name password : String)
      (next : LoginOutcome → Process (Response × Session))
      (anonymous : session.user = none)
      (last : ∀ outcome, ∃ response, next outcome =
        .done (response, if outcome = .loggedIn then ⟨some name⟩ else session)) :
      Faithful session (.ask (.login name password) next)
  | logout (name : String) (next : Unit → Process (Response × Session))
      (held : session.user = some name)
      (last : ∃ response, next () = .done (response, .anonymous)) :
      Faithful session (.ask (.logout name) next)
  | neutral (query : Query) (next : query.Answer → Process (Response × Session))
      (isNeutral : query.IsNeutral) (rest : ∀ answer, Faithful session (next answer)) :
      Faithful session (.ask query next)

theorem Faithful.rest {session : Session} {query : Query}
    {next : query.Answer → Process (Response × Session)}
    (faithful : Faithful session (.ask query next)) (isNeutral : query.IsNeutral)
    (answer : query.Answer) : Faithful session (next answer) := by
  cases faithful with
  | login name password next anonymous last => exact isNeutral.elim
  | logout name next held last => exact isNeutral.elim
  | neutral query next isNeutral rest => exact rest answer

theorem Faithful.of_uses {session : Session} {process : Process Response}
    (uses : process.Uses Query.IsNeutral) :
    Faithful session (process >>= fun response => .done (response, session)) := by
  induction process with
  | done response => exact .done response
  | ask query next inductionHypothesis =>
      exact .neutral query _ uses.1 fun answer => inductionHypothesis answer (uses.2 answer)

theorem withUser_faithful (session : Session) (action : String → Process Response)
    (uses : ∀ user, (action user).Uses Query.IsNeutral) :
    Faithful session
      (session.withUser action >>= fun response => .done (response, session)) := by
  apply Faithful.of_uses
  unfold Session.withUser
  split
  · trivial
  · exact uses _

/-- Every request is faithful to its session. -/
theorem handleRequest_faithful (session : Session) (line : String) (request : Request) :
    Faithful session (session.handleRequest line request) := by
  cases request with
  | empty => exact .done _
  | unknown command => exact .done _
  | malformed problem => exact .done _
  | login name password =>
      change Faithful session (session.login name password)
      unfold Session.login
      by_cases held : session.user.isSome = true
      · rw [if_pos held]
        exact .done _
      · rw [if_neg held]
        refine .login name password _ (by simpa using held) fun outcome => ?_
        exact ⟨.login outcome, rfl⟩
  | logout =>
      change Faithful session session.logout
      unfold Session.logout
      cases held : session.user with
      | none => exact .done _
      | some user => exact .logout user _ held ⟨.loggedOut, rfl⟩
  | credits => exact withUser_faithful session _ fun user => ⟨trivial, fun _ => trivial⟩
  | buy amount =>
      refine withUser_faithful session _ fun user => ?_
      unfold Session.buy
      split
      · trivial
      · split
        · exact ⟨trivial, fun _ => trivial⟩
        · trivial
  | list => exact withUser_faithful session _ fun user => ⟨trivial, fun _ => trivial⟩
  | compute expression =>
      refine .neutral (.count line) _ trivial fun _ => ?_
      refine withUser_faithful session _ fun user => ?_
      unfold Session.compute
      split
      · trivial
      · exact (computeFor_uses_neutral user _).bind fun _ => trivial

theorem handle_faithful (session : Session) (line : String) :
    Faithful session (session.handle line) :=
  handleRequest_faithful session line _

/-! ## Counting who claims a user -/

/-- The user of a successful login that is on its way to the session. -/
def Activity.granted : Activity → Option String
  | .answered ⟨_, _, .login name _, _⟩ .loggedIn => some name
  | _ => none

/-- What is left of the request is faithful, and no logout is awaited. -/
def Activity.IsFaithful : Activity → Prop
  | .idle _ | .ended => True
  | .due ⟨session, _, query, next⟩ => Faithful session (.ask query next)
  | .sent ⟨session, _, query, next⟩ | .answered ⟨session, _, query, next⟩ _ =>
      Faithful session (.ask query next) ∧ ∀ name, query ≠ .logout name

/-- How often a session claims a user, by holding the user or by a login on its
way. -/
def Activity.claim (user : String) (activity : Activity) : Nat :=
  (if activity.user = some user then 1 else 0) + (if activity.granted = some user then 1 else 0)

theorem Activity.claim_of_ungranted {activity : Activity} (ungranted : activity.granted = none)
    (user : String) : activity.claim user = if activity.user = some user then 1 else 0 := by
  simp [claim, ungranted]

theorem Activity.claim_sent (inquiry : Inquiry) (user : String) :
    (Activity.sent inquiry).claim user = if inquiry.session.user = some user then 1 else 0 :=
  claim_of_ungranted rfl user

/-- A login on its way claims its user if it succeeds. -/
theorem Activity.claim_answered_login (session : Session) (line name password : String)
    (next : LoginOutcome → Process (Response × Session)) (outcome : LoginOutcome)
    (user : String) :
    (Activity.answered ⟨session, line, .login name password, next⟩ outcome).claim user =
      (if session.user = some user then 1 else 0) +
        (if outcome = .loggedIn ∧ name = user then 1 else 0) := by
  cases outcome <;> simp [claim, Activity.user, granted] <;> rfl

/-- No other answer claims a user. -/
theorem Activity.claim_answered {inquiry : Inquiry} (isNeutral : inquiry.query.IsNeutral)
    (answer : inquiry.query.Answer) (user : String) :
    (Activity.answered inquiry answer).claim user =
      if inquiry.session.user = some user then 1 else 0 := by
  rcases inquiry with ⟨session, line, query, next⟩
  cases query with
  | login name password => exact isNeutral.elim
  | _ => exact claim_of_ungranted rfl user

namespace Traffic

/-- How many sessions hold a user. -/
def holders (traffic : Traffic) (user : String) : Nat :=
  traffic.sessions.countP fun activity => activity.user = some user

/-- How many successful logins of a user are on their way. -/
def granted (traffic : Traffic) (user : String) : Nat :=
  traffic.sessions.countP fun activity => activity.granted = some user

/-- How many logouts of a user wait in the mailbox. -/
def leaving (traffic : Traffic) (user : String) : Nat :=
  traffic.accountsMail.count (.logout user)

def claims (traffic : Traffic) (user : String) : Nat :=
  traffic.holders user + traffic.granted user + traffic.leaving user

theorem countP_set_add {α : Type} (p : α → Bool) {entries : List α} {position : Nat} {old : α}
    (new : α) (found : entries[position]? = some old) :
    (entries.set position new).countP p + (if p old then 1 else 0) =
      entries.countP p + (if p new then 1 else 0) := by
  rcases List.getElem?_eq_some_iff.mp found with ⟨inside, same⟩
  rw [List.countP_set inside, same]
  by_cases counted : p old = true
  · have positive : 0 < entries.countP p :=
      List.countP_pos_iff.mpr ⟨old, List.mem_of_getElem? found, counted⟩
    rw [if_pos counted]
    omega
  · rw [if_neg counted]
    omega

theorem claims_set {traffic : Traffic} {client : Nat} {old : Activity} (new : Activity)
    (found : traffic.sessions[client]? = some old) (user : String) :
    (traffic.set client new).claims user + old.claim user =
      traffic.claims user + new.claim user := by
  have holding := countP_set_add (fun activity : Activity => activity.user = some user) new found
  have granting :=
    countP_set_add (fun activity : Activity => activity.granted = some user) new found
  simp only [decide_eq_true_eq] at holding granting
  simp only [claims, holders, granted, leaving, set, Activity.claim]
  omega

theorem claims_postAccounts (traffic : Traffic) (mail : AccountsMail) (user : String) :
    (traffic.postAccounts mail).claims user =
      traffic.claims user + (if mail = .logout user then 1 else 0) := by
  simp only [claims, holders, granted, leaving, postAccounts, List.count_append,
    List.count_singleton, beq_iff_eq]
  omega

/-! ## The invariant -/

/-- A user is online as long as there is one claim, and there is no second one. -/
structure Occupied (traffic : Traffic) : Prop where
  accountsRun : traffic.controller.accountsRun = true
  faithful : ∀ activity ∈ traffic.sessions, activity.IsFaithful
  counted : ∀ user, traffic.claims user =
    if traffic.controller.accounts.isOnline user then 1 else 0

theorem Occupied.start (ceiling : UInt64) (users : List User) (registry : Registry)
    (clients : Nat) : (start ceiling users registry clients).Occupied where
  accountsRun := rfl
  faithful := by
    intro activity member
    rw [List.eq_of_mem_replicate member]
    trivial
  counted := by
    intro user
    have offline : (Accounts.ofUsers users).isOnline user = false :=
      Accounts.isOnline_ofUsers users user
    change _ = if (Accounts.ofUsers users).isOnline user = true then 1 else 0
    rw [offline]
    simp [claims, holders, granted, leaving, Traffic.start, List.countP_replicate,
      Activity.user, Activity.granted, Session.anonymous]

/-! ## Parts of a step -/

section Steps

variable {traffic : Traffic} {client : Nat}

theorem Occupied.withController (occupied : traffic.Occupied) {controller : Controller Unit}
    (running : controller.accountsRun = true)
    (same : ∀ user, controller.accounts.isOnline user =
      traffic.controller.accounts.isOnline user) :
    { traffic with controller := controller }.Occupied where
  accountsRun := running
  faithful := occupied.faithful
  counted := by
    intro user
    rw [same]
    exact occupied.counted user

theorem Occupied.withRegistryMail (occupied : traffic.Occupied) (mail : List RegistryMail) :
    { traffic with registryMail := mail }.Occupied :=
  ⟨occupied.accountsRun, occupied.faithful, occupied.counted⟩

theorem Occupied.postRegistry (occupied : traffic.Occupied) (mail : RegistryMail) :
    (traffic.postRegistry mail).Occupied :=
  occupied.withRegistryMail _

/-- Questions in the mailbox claim nobody. -/
theorem Occupied.dropQuestion {rest : List AccountsMail} (occupied : traffic.Occupied)
    (waiting : traffic.accountsMail = .question client :: rest) :
    { traffic with accountsMail := rest }.Occupied where
  accountsRun := occupied.accountsRun
  faithful := occupied.faithful
  counted := by
    intro user
    have before := occupied.counted user
    simp only [claims, leaving, waiting, List.count_cons, beq_iff_eq, reduceCtorEq,
      reduceIte] at before
    exact before

theorem Occupied.postQuestion (occupied : traffic.Occupied) :
    (traffic.postAccounts (.question client)).Occupied where
  accountsRun := occupied.accountsRun
  faithful := occupied.faithful
  counted := by
    intro user
    rw [claims_postAccounts, if_neg (by simp)]
    exact occupied.counted user

theorem Occupied.faithfulAt (occupied : traffic.Occupied) {activity : Activity}
    (found : traffic.sessions[client]? = some activity) : activity.IsFaithful :=
  occupied.faithful activity (List.mem_of_getElem? found)

theorem Occupied.faithful_set {new : Activity} (occupied : traffic.Occupied)
    (faithful : new.IsFaithful) :
    ∀ activity ∈ traffic.sessions.set client new, activity.IsFaithful := by
  intro activity member
  rcases List.mem_or_eq_of_mem_set member with earlier | rfl
  · exact occupied.faithful activity earlier
  · exact faithful

/-- A session that goes on with the same claims. -/
theorem Occupied.set {old new : Activity} (occupied : traffic.Occupied)
    (found : traffic.sessions[client]? = some old) (faithful : new.IsFaithful)
    (same : ∀ user, new.claim user = old.claim user) :
    (traffic.set client new).Occupied where
  accountsRun := occupied.accountsRun
  faithful := occupied.faithful_set faithful
  counted := by
    intro user
    have change := claims_set new found user
    have before := occupied.counted user
    rw [same] at change
    change _ = if traffic.controller.accounts.isOnline user = true then 1 else 0
    omega

/-- A session that gives a user up, and posts the logout. -/
theorem Occupied.release {old new : Activity} (occupied : traffic.Occupied) {name : String}
    (found : traffic.sessions[client]? = some old) (faithful : new.IsFaithful)
    (moved : ∀ user, new.claim user + (if name = user then 1 else 0) = old.claim user) :
    ((traffic.set client new).postAccounts (.logout name)).Occupied where
  accountsRun := occupied.accountsRun
  faithful := occupied.faithful_set faithful
  counted := by
    intro user
    have change := claims_set new found user
    have before := occupied.counted user
    have gone := moved user
    rw [claims_postAccounts]
    simp only [AccountsMail.logout.injEq]
    change _ = if traffic.controller.accounts.isOnline user = true then 1 else 0
    omega

/-- What is left of a request is faithful, so the session keeps its user. -/
theorem goOn_occupied {old : Activity} {session : Session} {line : String}
    {process : Process (Response × Session)} (occupied : traffic.Occupied)
    (found : traffic.sessions[client]? = some old)
    (holds : old.user = session.user) (ungranted : old.granted = none)
    (faithful : Faithful session process) :
    (traffic.goOn client session line process).1.Occupied := by
  cases process with
  | done result =>
      cases faithful with
      | done response =>
          refine occupied.set found trivial fun user => ?_
          rw [Activity.claim_of_ungranted ungranted, holds, Activity.claim_of_ungranted rfl]
          rfl
  | ask query next =>
      refine occupied.set found faithful fun user => ?_
      rw [Activity.claim_of_ungranted ungranted, holds, Activity.claim_of_ungranted rfl]
      rfl

theorem part_occupied {old : Activity} {session : Session} (occupied : traffic.Occupied)
    (found : traffic.sessions[client]? = some old)
    (holds : old.user = session.user) (ungranted : old.granted = none) :
    (traffic.part client session).Occupied := by
  unfold part Session.leave
  cases held : session.user with
  | none =>
      refine occupied.set found trivial fun user => ?_
      rw [Activity.claim_of_ungranted ungranted, holds, held, Activity.claim_of_ungranted rfl]
      rfl
  | some name =>
      refine occupied.release found trivial fun user => ?_
      rw [Activity.claim_of_ungranted ungranted, holds, held, Activity.claim_of_ungranted rfl]
      simp [Activity.user]

/-- The accounts may be asked the query: nobody waits for a logout. -/
theorem Occupied.submit {inquiry : Inquiry} (occupied : traffic.Occupied)
    (found : traffic.sessions[client]? = some (.due inquiry))
    (asked : ∀ name, inquiry.query ≠ .logout name) :
    (traffic.set client (.sent inquiry)).Occupied := by
  refine occupied.set found ⟨occupied.faithfulAt found, asked⟩ fun user => ?_
  rw [Activity.claim_of_ungranted rfl, Activity.claim_of_ungranted rfl]
  rfl

theorem act_occupied {inquiry : Inquiry} (occupied : traffic.Occupied)
    (found : traffic.sessions[client]? = some (.due inquiry)) :
    (traffic.act client inquiry).1.Occupied := by
  rcases inquiry with ⟨session, line, query, next⟩
  have faithful : Faithful session (.ask query next) := occupied.faithfulAt found
  cases query with
  | login name password => exact (occupied.submit found (by simp)).postQuestion
  | logout name =>
      cases faithful with
      | logout _ _ held last =>
          rcases last with ⟨response, finished⟩
          have stepped : (traffic.act client ⟨session, line, .logout name, next⟩).1 =
              (traffic.set client (.idle .anonymous)).postAccounts (.logout name) := by
            simp only [act, finished, goOn]
            rfl
          rw [stepped]
          refine occupied.release found trivial fun user => ?_
          rw [Activity.claim_of_ungranted rfl, Activity.claim_of_ungranted rfl]
          simp [Activity.user, Session.anonymous, held]
      | neutral _ _ isNeutral _ => exact isNeutral.elim
  | credits name => exact (occupied.submit found (by simp)).postQuestion
  | adjust name delta => exact (occupied.submit found (by simp)).postQuestion
  | availableOperators => exact (occupied.submit found (by simp)).postRegistry _
  | pick operator => exact (occupied.submit found (by simp)).postRegistry _
  | addUsage node amount =>
      exact goOn_occupied (occupied.postRegistry _) found rfl rfl (faithful.rest trivial ())
  | markOffline node =>
      exact goOn_occupied (occupied.postRegistry _) found rfl rfl (faithful.rest trivial ())
  | compute node left operator right => exact occupied.submit found (by simp)
  | count text =>
      exact goOn_occupied (occupied.withController occupied.accountsRun fun _ => rfl) found rfl rfl
        (faithful.rest trivial ())

theorem reply_occupied {session : Session} {line : String} {node : Endpoint} {left : Int64}
    {operator : Operator} {right : Int64} {next : Except Fault Reply → Process (Response × Session)}
    (answer : Except Fault Reply) (occupied : traffic.Occupied)
    (found : traffic.sessions[client]? =
      some (.sent ⟨session, line, .compute node left operator right, next⟩)) :
    (traffic.set client
      (.answered ⟨session, line, .compute node left operator right, next⟩ answer)).Occupied := by
  have faithful := occupied.faithfulAt found
  refine occupied.set found faithful fun user => ?_
  rw [Activity.claim_of_ungranted rfl, Activity.claim_of_ungranted rfl]
  rfl

/-- A session that was answered holds whom the answer says. -/
theorem resume_occupied {inquiry : Inquiry} {answer : inquiry.query.Answer}
    (occupied : traffic.Occupied)
    (found : traffic.sessions[client]? = some (.answered inquiry answer)) :
    (traffic.goOn client inquiry.session inquiry.line (inquiry.next answer)).1.Occupied := by
  rcases inquiry with ⟨session, line, query, next⟩
  obtain ⟨faithful, asked⟩ : Faithful session (.ask query next) ∧ ∀ name, query ≠ .logout name :=
    occupied.faithfulAt found
  cases faithful with
  | login name password next anonymous last =>
      rcases last answer with ⟨response, finished⟩
      simp only [finished, goOn]
      refine occupied.set found trivial fun user => ?_
      rw [Activity.claim_of_ungranted rfl]
      cases answer <;>
        simp [Activity.claim, Activity.user, Activity.granted, anonymous]
  | logout name next held last => exact absurd rfl (asked name)
  | neutral query next isNeutral rest =>
      refine goOn_occupied occupied found rfl ?_ (rest answer)
      cases query with
      | login name password => exact isNeutral.elim
      | _ => rfl

/-- The answer to a login puts the user online exactly when it grants the login. -/
theorem handleQuestion_login {session : Session} {line name password : String}
    {next : LoginOutcome → Process (Response × Session)} (occupied : traffic.Occupied)
    (found : traffic.sessions[client]? =
      some (.sent ⟨session, line, .login name password, next⟩)) :
    (traffic.handleQuestion client).Occupied := by
  let answered := traffic.controller.accounts.login name password
  have handled : traffic.handleQuestion client =
      { traffic with controller := { traffic.controller with accounts := answered.2 } }.set client
        (.answered ⟨session, line, .login name password, next⟩ answered.1) := by
    simp only [handleQuestion, found, Controller.answer_login _ _ occupied.accountsRun, answered]
  rw [handled]
  refine ⟨occupied.accountsRun, occupied.faithful_set (occupied.faithfulAt found :), fun user => ?_⟩
  have change := claims_set (.answered ⟨session, line, .login name password, next⟩ answered.1)
    found user
  have before := occupied.counted user
  simp only [Activity.claim_sent, Activity.claim_answered_login] at change
  change (traffic.set client _).claims user = if answered.2.isOnline user = true then 1 else 0
  rcases traffic.controller.accounts.login_cases name password with
    ⟨granted, offline, existing, after⟩ | ⟨refused, after⟩
  · have online : answered.2.isOnline user =
        if user = name then true else traffic.controller.accounts.isOnline user := by
      rw [after, Accounts.isOnline_setOnline, existing]
      rfl
    rw [online]
    by_cases same : user = name
    · have claimed : (if answered.1 = .loggedIn ∧ name = user then 1 else 0) = 1 :=
        if_pos ⟨granted, same.symm⟩
      rw [same, offline, if_neg (by simp)] at before
      rw [if_pos same, if_pos rfl]
      rw [← same] at before
      omega
    · have unclaimed : (if answered.1 = .loggedIn ∧ name = user then 1 else 0) = 0 :=
        if_neg fun both => same both.2.symm
      rw [if_neg same]
      omega
  · have unclaimed : (if answered.1 = .loggedIn ∧ name = user then 1 else 0) = 0 :=
      if_neg fun both => refused both.1
    rw [after]
    omega

theorem handleQuestion_neutral {inquiry : Inquiry} (occupied : traffic.Occupied)
    (found : traffic.sessions[client]? = some (.sent inquiry))
    (isNeutral : inquiry.query.IsNeutral) : (traffic.handleQuestion client).Occupied := by
  have online := Controller.isOnline_answer .inPlace _ occupied.accountsRun isNeutral
  have running := Controller.accountsRun_answer .inPlace _ occupied.accountsRun inquiry.query
  simp only [handleQuestion, found]
  split
  · next answer controller answered =>
      rw [answered] at online running
      refine (occupied.withController running online).set found (occupied.faithfulAt found :)
        fun user => ?_
      rw [Activity.claim_sent, Activity.claim_answered isNeutral]
  · next fault controller failed =>
      rw [failed] at online running
      exact part_occupied (occupied.withController running online) found rfl rfl

theorem handleQuestion_occupied (occupied : traffic.Occupied) :
    (traffic.handleQuestion client).Occupied := by
  cases found : traffic.sessions[client]? with
  | none => simpa only [handleQuestion, found] using occupied
  | some activity =>
      cases activity with
      | sent inquiry =>
          rcases inquiry with ⟨session, line, query, next⟩
          cases query with
          | login name password => exact handleQuestion_login occupied found
          | logout name => exact absurd rfl ((occupied.faithfulAt found).2 name)
          | _ => exact handleQuestion_neutral occupied found trivial
      | _ => simpa only [handleQuestion, found] using occupied

/-- A logout that is handled was the one claim on its user. -/
theorem logout_occupied {name : String} {rest : List AccountsMail}
    (occupied : traffic.Occupied) (waiting : traffic.accountsMail = .logout name :: rest) :
    { traffic with
      accountsMail := rest
      controller := traffic.controller.tellAccounts (·.logout name) }.Occupied := by
  rw [Controller.tellAccounts_running _ occupied.accountsRun]
  refine ⟨occupied.accountsRun, occupied.faithful, fun user => ?_⟩
  have before := occupied.counted user
  simp only [claims, leaving, waiting, List.count_cons, beq_iff_eq, AccountsMail.logout.injEq]
    at before
  change traffic.holders user + traffic.granted user + rest.count (.logout user) =
    if (traffic.controller.accounts.logout name).isOnline user = true then 1 else 0
  rw [Accounts.isOnline_logout]
  by_cases same : user = name
  · subst user
    simp only [reduceIte] at before ⊢
    split at before <;> simp <;> omega
  · simp only [same, Ne.symm same, reduceIte] at before ⊢
    omega

end Steps

/-! ## Steps and runs -/

theorem step_occupied {traffic after : Traffic} {event : TrafficEvent}
    {occurrences : List Occurrence} (occupied : traffic.Occupied)
    (stepped : traffic.step? event = some (after, occurrences)) : after.Occupied := by
  cases moves_of_step? stepped with
  | request line found => exact goOn_occupied occupied found rfl rfl (handle_faithful _ line)
  | leave found => exact part_occupied occupied found rfl rfl
  | act found => exact act_occupied occupied found
  | reply answer found => exact reply_occupied answer occupied found
  | resume found => exact resume_occupied occupied found
  | accountsQuestion waiting => exact handleQuestion_occupied (occupied.dropQuestion waiting)
  | logout waiting => exact logout_occupied occupied waiting
  | registryQuestion waiting => exact handleQuestion_occupied (occupied.withRegistryMail _)
  | @addUsage _ _ rest waiting =>
      refine (occupied.withRegistryMail rest).withController ?_ ?_
      · simpa using occupied.accountsRun
      · simp
  | @markOffline _ rest waiting =>
      refine (occupied.withRegistryMail rest).withController ?_ ?_
      · simpa using occupied.accountsRun
      · simp
  | others request => exact occupied.withController (by simpa using occupied.accountsRun) (by simp)

theorem run_occupied {traffic after : Traffic} {events : List TrafficEvent}
    {record : List Occurrence} (occupied : traffic.Occupied)
    (ran : traffic.run? events = some (after, record)) : after.Occupied := by
  induction events generalizing traffic record with
  | nil =>
      rcases Prod.mk.inj (Option.some.inj ran) with ⟨rfl, -⟩
      exact occupied
  | cons event others inductionHypothesis =>
      rcases run?_cons ran with ⟨middle, occurrences, later, stepped, rest, -⟩
      exact inductionHypothesis (step_occupied occupied stepped) rest

/-! ## One session per user -/

/-- No user is held by two of the sessions. -/
def Exclusive (sessions : List Activity) : Prop :=
  ∀ (user : String) (first second : Nat) (left right : Activity),
    sessions[first]? = some left → sessions[second]? = some right →
      left.user = some user → right.user = some user → first = second

/-- A session that keeps its user. -/
theorem Exclusive.set {sessions : List Activity} (exclusive : Exclusive sessions) {client : Nat}
    {old : Activity} (new : Activity) (found : sessions[client]? = some old)
    (same : new.user = old.user) : Exclusive (sessions.set client new) := by
  rcases List.getElem?_eq_some_iff.mp found with ⟨inside, -⟩
  have before {position : Nat} {activity : Activity}
      (activityAt : (sessions.set client new)[position]? = some activity) :
      ∃ earlier, sessions[position]? = some earlier ∧ earlier.user = activity.user := by
    by_cases here : client = position
    · subst position
      rw [List.getElem?_set_self inside] at activityAt
      obtain rfl := Option.some.inj activityAt
      exact ⟨old, found, same.symm⟩
    · rw [List.getElem?_set_ne here] at activityAt
      exact ⟨activity, activityAt, rfl⟩
  intro user first second left right leftAt rightAt leftHolds rightHolds
  rcases before leftAt with ⟨earlierLeft, earlierLeftAt, leftSame⟩
  rcases before rightAt with ⟨earlierRight, earlierRightAt, rightSame⟩
  exact exclusive user first second _ _ earlierLeftAt earlierRightAt (leftSame.trans leftHolds)
    (rightSame.trans rightHolds)

theorem position_unique {α : Type} (p : α → Bool) {entries : List α} (few : entries.countP p ≤ 1)
    {first second : Nat} {left right : α} (leftAt : entries[first]? = some left)
    (rightAt : entries[second]? = some right) (leftCounts : p left = true)
    (rightCounts : p right = true) : first = second := by
  induction entries generalizing first second with
  | nil => simp at leftAt
  | cons entry others inductionHypothesis =>
      rw [List.countP_cons] at few
      have elsewhere {position : Nat} {found : α} (foundAt : others[position]? = some found)
          (counts : p found = true) : 0 < others.countP p :=
        List.countP_pos_iff.mpr ⟨found, List.mem_of_getElem? foundAt, counts⟩
      match first, second with
      | 0, 0 => rfl
      | 0, position + 1 =>
          obtain rfl : entry = left := by simpa using leftAt
          have positive := elsewhere (by simpa using rightAt) rightCounts
          rw [if_pos leftCounts] at few
          omega
      | position + 1, 0 =>
          obtain rfl : entry = right := by simpa using rightAt
          have positive := elsewhere (by simpa using leftAt) leftCounts
          rw [if_pos rightCounts] at few
          omega
      | before + 1, after + 1 =>
          have same : before = after :=
            inductionHypothesis (by omega) (by simpa using leftAt) (by simpa using rightAt)
          rw [same]

namespace Occupied

variable {traffic : Traffic}

theorem claims_le_one (occupied : traffic.Occupied) (user : String) :
    traffic.holders user + traffic.granted user + traffic.leaving user ≤ 1 := by
  have counted : traffic.holders user + traffic.granted user + traffic.leaving user =
    if traffic.controller.accounts.isOnline user then 1 else 0 := occupied.counted user
  split at counted <;> omega

theorem isOnline_iff (occupied : traffic.Occupied) (user : String) :
    traffic.controller.accounts.isOnline user = true ↔
      traffic.holders user = 1 ∨ traffic.granted user = 1 ∨ traffic.leaving user = 1 := by
  have counted : traffic.holders user + traffic.granted user + traffic.leaving user =
    if traffic.controller.accounts.isOnline user then 1 else 0 := occupied.counted user
  by_cases online : traffic.controller.accounts.isOnline user = true
  · rw [if_pos online] at counted
    exact ⟨fun _ => by omega, fun _ => online⟩
  · rw [if_neg online] at counted
    exact ⟨fun claimed => absurd claimed online, fun claims => by omega⟩

theorem exclusive (occupied : traffic.Occupied) : Exclusive traffic.sessions := by
  intro user first second left right leftAt rightAt leftHolds rightHolds
  have few := occupied.claims_le_one user
  refine position_unique (fun activity : Activity => activity.user = some user) ?_ leftAt rightAt
    (by simpa using leftHolds) (by simpa using rightHolds)
  change traffic.holders user ≤ 1
  omega

/-- While a logout waits, nobody claims its user. -/
theorem unclaimed_of_leaving (occupied : traffic.Occupied) {user : String}
    (waiting : .logout user ∈ traffic.accountsMail) {activity : Activity}
    (member : activity ∈ traffic.sessions) :
    activity.user ≠ some user ∧ activity.granted ≠ some user := by
  have few := occupied.claims_le_one user
  have leaves : 0 < traffic.leaving user := List.count_pos_iff.mpr waiting
  constructor
  · intro holds
    have held : 0 < traffic.holders user :=
      List.countP_pos_iff.mpr ⟨activity, member, by simpa using holds⟩
    omega
  · intro grants
    have granted : 0 < traffic.granted user :=
      List.countP_pos_iff.mpr ⟨activity, member, by simpa using grants⟩
    omega

end Occupied

/-- In every state that sessions come to, a user is held by one session at most,
and is online exactly as long as a session holds the user, a successful login is
on its way or a logout waits. These exclude each other, so a logout that waits
takes nobody offline who has logged in since. -/
theorem logins_are_exclusive (ceiling : UInt64) (users : List User) (registry : Registry)
    (clients : Nat) {events : List TrafficEvent} {traffic : Traffic} {record : List Occurrence}
    (ran : (start ceiling users registry clients).run? events = some (traffic, record)) :
    Exclusive traffic.sessions ∧
    (∀ user, traffic.controller.accounts.isOnline user = true ↔
      traffic.holders user = 1 ∨ traffic.granted user = 1 ∨ traffic.leaving user = 1) ∧
    (∀ user, traffic.holders user + traffic.granted user + traffic.leaving user ≤ 1) ∧
    (∀ user, .logout user ∈ traffic.accountsMail → ∀ activity ∈ traffic.sessions,
      activity.user ≠ some user ∧ activity.granted ≠ some user) := by
  have occupied := run_occupied (Occupied.start ceiling users registry clients) ran
  refine ⟨occupied.exclusive, occupied.isOnline_iff, occupied.claims_le_one, ?_⟩
  intro user waiting activity member
  exact occupied.unclaimed_of_leaving waiting member

/-- A client logs in, out and in again, and another one asks for the same user
while the logout still waits. -/
theorem logins_are_exclusive_handover :
    ∃ traffic record,
      (start 300 [⟨"alice", "12345", 60⟩] .empty 2).run?
        [.request 0 "!login alice 12345", .act 0, .serveAccounts, .resume 0,
          .request 0 "!logout", .act 0, .request 1 "!login alice 12345", .act 1] =
            some (traffic, record) ∧
      .logout "alice" ∈ traffic.accountsMail ∧
      ∀ activity ∈ traffic.sessions,
        activity.user ≠ some "alice" ∧ activity.granted ≠ some "alice" := by
  have possible : ((start 300 [⟨"alice", "12345", 60⟩] .empty 2).run?
      [.request 0 "!login alice 12345", .act 0, .serveAccounts, .resume 0,
        .request 0 "!logout", .act 0, .request 1 "!login alice 12345", .act 1]).any
          (fun reached => reached.1.accountsMail.contains (.logout "alice")) = true := by
    decide +kernel
  rcases (Option.any_eq_true _ _).mp possible with ⟨⟨traffic, record⟩, ran, waits⟩
  have waiting : AccountsMail.logout "alice" ∈ traffic.accountsMail := by simpa using waits
  exact ⟨traffic, record, ran, waiting,
    (logins_are_exclusive _ _ _ _ ran).2.2.2 "alice" waiting⟩

end Traffic

end ArithmeticCloud.Service
