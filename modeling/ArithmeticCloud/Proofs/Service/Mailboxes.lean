import ArithmeticCloud.Proofs.Service.Answers
import ArithmeticCloud.Proofs.Service.Traffic

/-!
Contract: a question in a mailbox is that of one session, which waits for its answer.

Owns:
- `Traffic.Attended`: both actors run, and a mailbox holds at most one question of a
  session, and only while the session waits for an answer from just this actor. Every
  step keeps it;
- the answer to a question, which its session is given.

Does not own: what answers say.
-/

namespace ArithmeticCloud.Service

open Billing Fleet

/-! ## Who waits for whom -/

/-- Whether a query is a question to the accounts. -/
def Query.asksAccounts : Query → Bool
  | .login .. | .credits _ | .adjust .. => true
  | _ => false

/-- Whether a query is a question to the registry. -/
def Query.asksRegistry : Query → Bool
  | .availableOperators | .pick _ => true
  | _ => false

/-- Whether a session waits for the answer to a question of a kind. -/
def Activity.awaits (asks : Query → Bool) : Activity → Bool
  | .sent inquiry => asks inquiry.query
  | _ => false

theorem Query.not_asksRegistry {query : Query} (asks : query.asksAccounts = true) :
    query.asksRegistry = false := by
  cases query with
  | availableOperators | pick _ => cases asks
  | _ => rfl

theorem Query.not_asksAccounts {query : Query} (asks : query.asksRegistry = true) :
    query.asksAccounts = false := by
  cases query with
  | availableOperators | pick _ => rfl
  | _ => cases asks

/-- A session has at most one question under way, and only if it waits for the answer. -/
def Attends (asks : Query → Bool) (questions : Nat → Nat) (sessions : List Activity) : Prop :=
  ∀ client, questions client ≤ if sessions[client]?.any (Activity.awaits asks) then 1 else 0

section Attending

variable {asks : Query → Bool} {questions : Nat → Nat} {sessions : List Activity} {client : Nat}

/-- A session that did not wait has no question under way, whatever it does next. -/
theorem Attends.set (attends : Attends asks questions sessions) {old : Activity}
    (found : sessions[client]? = some old) (quiet : old.awaits asks = false) (new : Activity) :
    Attends asks questions (sessions.set client new) := by
  intro position
  have before := attends position
  by_cases here : client = position
  · subst position
    rw [found, Option.any_some, quiet, if_neg Bool.false_ne_true] at before
    exact Nat.le_trans before (Nat.zero_le _)
  · rw [List.getElem?_set_ne here]
    exact before

/-- A session that starts to wait posts one question. -/
theorem Attends.post (attends : Attends asks questions sessions) {old new : Activity}
    (found : sessions[client]? = some old) (quiet : old.awaits asks = false)
    (waits : new.awaits asks = true) {more : Nat → Nat}
    (posted : ∀ position, more position = questions position + if client = position then 1 else 0) :
    Attends asks more (sessions.set client new) := by
  intro position
  have before := attends position
  obtain ⟨inside, -⟩ := List.getElem?_eq_some_iff.mp found
  rw [posted]
  by_cases here : client = position
  · subst position
    rw [found, Option.any_some, quiet, if_neg Bool.false_ne_true] at before
    rw [List.getElem?_set_self inside, Option.any_some, waits, if_pos rfl, if_pos rfl]
    omega
  · rw [List.getElem?_set_ne here, if_neg here]
    exact before

/-- Once its question is taken, a session has none under way. -/
theorem Attends.take (attends : Attends asks questions sessions) {fewer : Nat → Nat}
    (taken : ∀ position, questions position = fewer position + if client = position then 1 else 0)
    (new : Activity) : Attends asks fewer (sessions.set client new) := by
  intro position
  have before := attends position
  rw [taken] at before
  by_cases here : client = position
  · subst position
    have none : fewer client = 0 := by
      rw [if_pos rfl] at before
      split at before <;> omega
    rw [none]
    exact Nat.zero_le _
  · rw [if_neg here] at before
    rw [List.getElem?_set_ne here]
    exact before

theorem Attends.exists_sent (attends : Attends asks questions sessions)
    (asked : 0 < questions client) :
    ∃ inquiry, sessions[client]? = some (.sent inquiry) ∧ asks inquiry.query = true := by
  have before := attends client
  by_cases waits : sessions[client]?.any (Activity.awaits asks) = true
  · obtain ⟨activity, found, awaits⟩ := (Option.any_eq_true _ _).mp waits
    cases activity with
    | sent inquiry => exact ⟨inquiry, found, awaits⟩
    | idle session => cases awaits
    | due inquiry => cases awaits
    | answered inquiry answer => cases awaits
    | ended => cases awaits
  · rw [if_neg waits] at before
    omega

end Attending

namespace Traffic

/-- How many questions of a session wait in the mailbox of the accounts. -/
def accountsQuestions (traffic : Traffic) (client : Nat) : Nat :=
  traffic.accountsMail.count (.question client)

/-- How many questions of a session wait in the mailbox of the registry. -/
def registryQuestions (traffic : Traffic) (client : Nat) : Nat :=
  traffic.registryMail.count (.question client)

/-- Both actors run, and their mailboxes hold questions of sessions that wait for them. -/
structure Attended (traffic : Traffic) : Prop where
  accountsRun : traffic.controller.accountsRun = true
  registryRuns : traffic.controller.registryRuns = true
  accounts : Attends Query.asksAccounts traffic.accountsQuestions traffic.sessions
  registry : Attends Query.asksRegistry traffic.registryQuestions traffic.sessions

theorem Attended.start (ceiling : UInt64) (users : List User) (registry : Registry)
    (clients : Nat) : (start ceiling users registry clients).Attended :=
  ⟨rfl, rfl, fun _ => Nat.zero_le _, fun _ => Nat.zero_le _⟩

/-! ## Parts of a step -/

section Steps

variable {traffic : Traffic} {client : Nat}

theorem Attended.withController (attended : traffic.Attended) (controller : Controller Unit)
    (accountsRun : controller.accountsRun = true) (registryRuns : controller.registryRuns = true) :
    { traffic with controller := controller }.Attended :=
  ⟨accountsRun, registryRuns, attended.accounts, attended.registry⟩

theorem Attended.set (attended : traffic.Attended) {old : Activity}
    (found : traffic.sessions[client]? = some old)
    (noAccounts : old.awaits Query.asksAccounts = false)
    (noRegistry : old.awaits Query.asksRegistry = false) (new : Activity) :
    (traffic.set client new).Attended :=
  ⟨attended.accountsRun, attended.registryRuns, attended.accounts.set found noAccounts new,
    attended.registry.set found noRegistry new⟩

theorem Attended.postLogout (attended : traffic.Attended) (name : String) :
    (traffic.postAccounts (.logout name)).Attended := by
  refine ⟨attended.accountsRun, attended.registryRuns, fun position => ?_, attended.registry⟩
  show (traffic.accountsMail ++ [AccountsMail.logout name]).count (.question position) ≤ _
  rw [List.count_append, List.count_singleton, if_neg (by simp), Nat.add_zero]
  exact attended.accounts position

theorem Attended.postNotice (attended : traffic.Attended) {mail : RegistryMail}
    (isNotice : ∀ position, mail ≠ .question position) : (traffic.postRegistry mail).Attended := by
  refine ⟨attended.accountsRun, attended.registryRuns, attended.accounts, fun position => ?_⟩
  show (traffic.registryMail ++ [mail]).count (.question position) ≤ _
  rw [List.count_append, List.count_singleton, if_neg (by simpa using isNotice position),
    Nat.add_zero]
  exact attended.registry position

theorem Attended.askAccounts (attended : traffic.Attended) {inquiry : Inquiry}
    (found : traffic.sessions[client]? = some (.due inquiry))
    (asks : inquiry.query.asksAccounts = true) :
    ((traffic.set client (.sent inquiry)).postAccounts (.question client)).Attended := by
  have waits : (Activity.sent inquiry).awaits Query.asksAccounts = true := asks
  refine ⟨attended.accountsRun, attended.registryRuns,
    attended.accounts.post found rfl waits fun position => ?_, attended.registry.set found rfl _⟩
  show (traffic.accountsMail ++ [AccountsMail.question client]).count (.question position) = _
  rw [List.count_append, List.count_singleton, accountsQuestions]
  simp only [beq_iff_eq, AccountsMail.question.injEq]

theorem Attended.askRegistry (attended : traffic.Attended) {inquiry : Inquiry}
    (found : traffic.sessions[client]? = some (.due inquiry))
    (asks : inquiry.query.asksRegistry = true) :
    ((traffic.set client (.sent inquiry)).postRegistry (.question client)).Attended := by
  have waits : (Activity.sent inquiry).awaits Query.asksRegistry = true := asks
  refine ⟨attended.accountsRun, attended.registryRuns, attended.accounts.set found rfl _,
    attended.registry.post found rfl waits fun position => ?_⟩
  show (traffic.registryMail ++ [RegistryMail.question client]).count (.question position) = _
  rw [List.count_append, List.count_singleton, registryQuestions]
  simp only [beq_iff_eq, RegistryMail.question.injEq]

/-- The session that goes on waits for nothing. -/
theorem goOn_attended (attended : traffic.Attended) {old : Activity}
    (found : traffic.sessions[client]? = some old)
    (noAccounts : old.awaits Query.asksAccounts = false)
    (noRegistry : old.awaits Query.asksRegistry = false) (session : Session) (line : String)
    (process : Process (Response × Session)) :
    (traffic.goOn client session line process).1.Attended := by
  cases process with
  | done result => exact attended.set found noAccounts noRegistry _
  | ask query next => exact attended.set found noAccounts noRegistry _

theorem part_attended (attended : traffic.Attended) {old : Activity}
    (found : traffic.sessions[client]? = some old)
    (noAccounts : old.awaits Query.asksAccounts = false)
    (noRegistry : old.awaits Query.asksRegistry = false) (session : Session) :
    (traffic.part client session).Attended := by
  have ended := attended.set found noAccounts noRegistry .ended
  unfold part Session.leave
  cases session.user with
  | none => exact ended
  | some name => exact ended.postLogout name

theorem act_attended (attended : traffic.Attended) {inquiry : Inquiry}
    (found : traffic.sessions[client]? = some (.due inquiry)) :
    (traffic.act client inquiry).1.Attended := by
  rcases inquiry with ⟨session, line, query, next⟩
  cases query with
  | login _ _ | credits _ | adjust _ _ => exact attended.askAccounts found rfl
  | availableOperators | pick _ => exact attended.askRegistry found rfl
  | compute node left operator right => exact attended.set found rfl rfl _
  | logout name => exact goOn_attended (attended.postLogout name) found rfl rfl session line _
  | addUsage _ _ | markOffline _ =>
      exact goOn_attended (attended.postNotice fun _ => by simp) found rfl rfl session line _
  | count text =>
      have counted := attended.withController (traffic.controller.answer .inPlace (.count text)).2
        attended.accountsRun attended.registryRuns
      exact goOn_attended counted found rfl rfl session line _

/-- A question that is handled is answered. -/
theorem exists_handleQuestion_eq (traffic : Traffic)
    (accountsRun : traffic.controller.accountsRun = true)
    (registryRuns : traffic.controller.registryRuns = true) {inquiry : Inquiry}
    (found : traffic.sessions[client]? = some (.sent inquiry)) :
    ∃ answer, (traffic.controller.answer .inPlace inquiry.query).1 = .ok answer ∧
      traffic.handleQuestion client =
        { traffic with controller := (traffic.controller.answer .inPlace inquiry.query).2 }.set
          client (.answered inquiry answer) := by
  obtain ⟨answer, answered⟩ := Controller.answer_ok .inPlace traffic.controller accountsRun
    registryRuns inquiry.query
  refine ⟨answer, answered, ?_⟩
  simp only [handleQuestion, found]
  rcases asked : traffic.controller.answer .inPlace inquiry.query with ⟨reply, after⟩
  rw [asked] at answered
  obtain rfl : reply = .ok answer := answered
  rfl

theorem Attended.runs_answer (attended : traffic.Attended) (query : Query) :
    (traffic.controller.answer .inPlace query).2.accountsRun = true ∧
      (traffic.controller.answer .inPlace query).2.registryRuns = true := by
  refine ⟨Controller.accountsRun_answer .inPlace _ attended.accountsRun query, ?_⟩
  rw [Controller.registryRuns_answer .inPlace _ attended.accountsRun query]
  exact attended.registryRuns

/-- The question in front of the accounts is that of a session that waits for them. -/
theorem Attended.accounts_front (attended : traffic.Attended) {rest : List AccountsMail}
    (waiting : traffic.accountsMail = .question client :: rest) :
    ∃ inquiry answer, traffic.sessions[client]? = some (.sent inquiry) ∧
      inquiry.query.asksAccounts = true ∧
      (traffic.controller.answer .inPlace inquiry.query).1 = .ok answer ∧
      { traffic with accountsMail := rest }.handleQuestion client =
        { traffic with
          accountsMail := rest
          controller := (traffic.controller.answer .inPlace inquiry.query).2 }.set client
          (.answered inquiry answer) ∧
      ({ traffic with accountsMail := rest }.handleQuestion client).Attended := by
  have taken (position : Nat) : traffic.accountsQuestions position =
      rest.count (.question position) + if client = position then 1 else 0 := by
    rw [accountsQuestions, waiting, List.count_cons]
    simp only [beq_iff_eq, AccountsMail.question.injEq]
  have asked : 0 < traffic.accountsQuestions client := by
    rw [taken, if_pos rfl]
    exact Nat.succ_pos _
  obtain ⟨inquiry, found, asks⟩ := attended.accounts.exists_sent asked
  obtain ⟨answer, answered, handled⟩ := exists_handleQuestion_eq
    { traffic with accountsMail := rest } attended.accountsRun attended.registryRuns found
  refine ⟨inquiry, answer, found, asks, answered, handled, ?_⟩
  rw [handled]
  obtain ⟨accountsRun, registryRuns⟩ := attended.runs_answer inquiry.query
  exact ⟨accountsRun, registryRuns, attended.accounts.take taken _,
    attended.registry.set found (Query.not_asksRegistry asks) _⟩

/-- The question in front of the registry is that of a session that waits for it. -/
theorem Attended.registry_front (attended : traffic.Attended) {rest : List RegistryMail}
    (waiting : traffic.registryMail = .question client :: rest) :
    ∃ inquiry answer, traffic.sessions[client]? = some (.sent inquiry) ∧
      inquiry.query.asksRegistry = true ∧
      (traffic.controller.answer .inPlace inquiry.query).1 = .ok answer ∧
      { traffic with registryMail := rest }.handleQuestion client =
        { traffic with
          registryMail := rest
          controller := (traffic.controller.answer .inPlace inquiry.query).2 }.set client
          (.answered inquiry answer) ∧
      ({ traffic with registryMail := rest }.handleQuestion client).Attended := by
  have taken (position : Nat) : traffic.registryQuestions position =
      rest.count (.question position) + if client = position then 1 else 0 := by
    rw [registryQuestions, waiting, List.count_cons]
    simp only [beq_iff_eq, RegistryMail.question.injEq]
  have asked : 0 < traffic.registryQuestions client := by
    rw [taken, if_pos rfl]
    exact Nat.succ_pos _
  obtain ⟨inquiry, found, asks⟩ := attended.registry.exists_sent asked
  obtain ⟨answer, answered, handled⟩ := exists_handleQuestion_eq
    { traffic with registryMail := rest } attended.accountsRun attended.registryRuns found
  refine ⟨inquiry, answer, found, asks, answered, handled, ?_⟩
  rw [handled]
  obtain ⟨accountsRun, registryRuns⟩ := attended.runs_answer inquiry.query
  exact ⟨accountsRun, registryRuns, attended.accounts.set found (Query.not_asksAccounts asks) _,
    attended.registry.take taken _⟩

/-- A notice in front of the registry is no question. -/
theorem Attended.dropNotice (attended : traffic.Attended) {mail : RegistryMail}
    {rest : List RegistryMail} (waiting : traffic.registryMail = mail :: rest)
    (isNotice : ∀ position, mail ≠ .question position) :
    { traffic with registryMail := rest }.Attended := by
  refine ⟨attended.accountsRun, attended.registryRuns, attended.accounts, fun position => ?_⟩
  have before := attended.registry position
  rw [registryQuestions, waiting, List.count_cons, if_neg (by simpa using isNotice position),
    Nat.add_zero] at before
  exact before

end Steps

/-! ## Steps -/

theorem step_attended {traffic after : Traffic} {event : TrafficEvent}
    {occurrences : List Occurrence} (attended : traffic.Attended)
    (stepped : traffic.step? event = some (after, occurrences)) : after.Attended := by
  cases moves_of_step? stepped with
  | request line found => exact goOn_attended attended found rfl rfl _ line _
  | leave found => exact part_attended attended found rfl rfl _
  | act found => exact act_attended attended found
  | reply answer found => exact attended.set found rfl rfl _
  | resume found => exact goOn_attended attended found rfl rfl _ _ _
  | accountsQuestion waiting =>
      obtain ⟨_, _, _, _, _, _, stillAttended⟩ := attended.accounts_front waiting
      exact stillAttended
  | @logout name rest waiting =>
      rw [Controller.tellAccounts_running _ attended.accountsRun]
      refine ⟨attended.accountsRun, attended.registryRuns, fun position => ?_, attended.registry⟩
      have before := attended.accounts position
      rw [accountsQuestions, waiting, List.count_cons, if_neg (by simp), Nat.add_zero] at before
      exact before
  | registryQuestion waiting =>
      obtain ⟨_, _, _, _, _, _, stillAttended⟩ := attended.registry_front waiting
      exact stillAttended
  | addUsage waiting | markOffline waiting =>
      refine (attended.dropNotice waiting fun _ => by simp).withController _ ?_ ?_
      · simpa using attended.accountsRun
      · simpa using attended.registryRuns
  | others request =>
      refine attended.withController _ ?_ ?_
      · simpa using attended.accountsRun
      · simpa using attended.registryRuns

end Traffic

end ArithmeticCloud.Service
