import ArithmeticCloud.Proofs.Service.Effects
import ArithmeticCloud.Proofs.Service.Tallies
import ArithmeticCloud.Proofs.Service.Traffic

/-!
Contract: sessions that share a controller record each of their compute requests once.

Owns:
- the line that a request records, first of all and only once;
- `Traffic.Tallied`: what was recorded, together with what sessions are still about to record,
  is what was requested. Every step keeps it, whatever the sessions do in between;
- the statistics after a run.

Does not own: what a recorded line counts for.
-/

namespace ArithmeticCloud.Service

open Billing Fleet Text

/-! ## What a request records -/

/-- The line that a query records. -/
def Query.recorded : Query → List String
  | .count line => [line]
  | _ => []

def Query.IsSilent (query : Query) : Prop := query.recorded = []

namespace Process

variable {α : Type}

/-- What the first query of a process records. -/
def recorded : Process α → List String
  | .done _ => []
  | .ask query _ => query.recorded

/-- After its first query, the process records nothing. -/
def RecordsFirst : Process α → Prop
  | .done _ => True
  | .ask _ next => ∀ answer, (next answer).Uses Query.IsSilent

theorem records_of_silent {process : Process α} (silent : process.Uses Query.IsSilent) :
    process.RecordsFirst ∧ process.recorded = [] := by
  cases process with
  | done result => exact ⟨trivial, rfl⟩
  | ask query next => exact ⟨silent.2, silent.1⟩

end Process

theorem Query.isSilent_of_evaluates (query : Query) (evaluates : query.evaluates = true) :
    query.IsSilent := by
  cases query with
  | count line => cases evaluates
  | _ => rfl

theorem Query.isSilent_of_permitted {owner : Option String} {switches : String → Prop}
    {query : Query} (permitted : query.Permitted owner switches False) : query.IsSilent := by
  cases query with
  | login name password => exact permitted.elim
  | count line => exact permitted.elim
  | _ => rfl

instance (line : String) : Decidable (IsCompute line) := inferInstanceAs (Decidable (_ = _))

theorem Request.ofLine_eq_compute_iff {line : String} :
    (∃ expression, ofLine line = .compute expression) ↔ IsCompute line := by
  constructor
  · rintro ⟨expression, request⟩
    obtain ⟨parameters, split⟩ := exists_words_of_command? (congrArg command? request)
    rw [IsCompute, split]
    rfl
  · intro keyword
    obtain ⟨parameters, split⟩ := List.head?_eq_some_iff.mp keyword
    refine ⟨parameters, ?_⟩
    rw [ofLine, split]
    rfl

namespace Session

/-- Only a compute request is permitted to record. -/
theorem handleRequest_uses_silent {session : Session} {line : String} {request : Request}
    (other : ∀ expression, request ≠ .compute expression) :
    (session.handleRequest line request).Uses Query.IsSilent := by
  by_cases login : ∃ name password, request = .login name password
  · obtain ⟨name, password, rfl⟩ := login
    show (session.login name password).Uses _
    unfold Session.login
    split
    · trivial
    · exact ⟨rfl, fun _ => trivial⟩
  · have permitted : (session.handleRequest line request).Uses
        (Query.Permitted session.user (fun _ => True) False) := by
      apply handleRequest_uses
      · exact fun name password isLogin => login ⟨name, password, isLogin⟩
      · exact fun _ _ _ => trivial
      · exact other
    exact permitted.mono fun _ => Query.isSilent_of_permitted

/-- A compute request records its line first of all, and nothing else is recorded. -/
theorem handle_records (session : Session) (line : String) :
    (session.handle line).RecordsFirst ∧
      (session.handle line).recorded = if IsCompute line then [line] else [] := by
  unfold handle
  by_cases computes : IsCompute line
  · obtain ⟨expression, request⟩ := Request.ofLine_eq_compute_iff.mpr computes
    rw [request, if_pos computes]
    refine ⟨fun _ => withUser_uses fun user _ => ?_, rfl⟩
    unfold Session.compute
    split
    · trivial
    · exact (computeFor_uses Query.isSilent_of_evaluates rfl (fun _ => rfl) _).bind
        fun _ => trivial
  · rw [if_neg computes]
    apply Process.records_of_silent
    apply handleRequest_uses_silent
    intro expression request
    exact computes (Request.ofLine_eq_compute_iff.mp ⟨expression, request⟩)

end Session

/-! ## Answers -/

namespace Controller

variable {σ α : Type}

theorem statistics_askAccounts (controller : Controller σ)
    (action : Accounts → α × Accounts) :
    (controller.askAccounts action).2.statistics = controller.statistics := by
  unfold askAccounts
  split
  · rfl
  · rfl

theorem statistics_askRegistry (controller : Controller σ)
    (action : Registry → α × Registry) :
    (controller.askRegistry action).2.statistics = controller.statistics := by
  unfold askRegistry
  split
  · rfl
  · rfl

theorem statistics_tellAccounts (controller : Controller σ) (change : Accounts → Accounts) :
    (controller.tellAccounts change).statistics = controller.statistics := by
  unfold tellAccounts
  split
  · rfl
  · rfl

theorem statistics_tellRegistry (controller : Controller σ) (change : Registry → Registry) :
    (controller.tellRegistry change).statistics = controller.statistics := by
  unfold tellRegistry
  split
  · rfl
  · rfl

theorem statistics_requestRegistry (controller : Controller σ) (request : RegistryRequest) :
    (controller.requestRegistry request).2.statistics = controller.statistics := by
  unfold requestRegistry
  split
  · exact controller.statistics_askRegistry _
  · exact controller.statistics_tellRegistry _

theorem statistics_adjust (controller : Controller σ) (name : String) (delta : Int64) :
    (controller.adjust name delta).2.statistics = controller.statistics := by
  unfold adjust
  split
  · dsimp only
    unfold deliver
    split
    · rfl
    · rfl
  · rfl

/-- A query records its line, if it has one, and changes the statistics in no other way. -/
theorem statistics_answer (link : Link σ) (controller : Controller σ) (query : Query) :
    (controller.answer link query).2.statistics =
      controller.statistics.recordAll query.recorded := by
  cases query with
  | login name password => exact controller.statistics_askAccounts _
  | logout name => exact controller.statistics_tellAccounts _
  | credits name => exact controller.statistics_askAccounts _
  | adjust name delta => exact controller.statistics_adjust name delta
  | availableOperators => exact controller.statistics_askRegistry _
  | pick operator => exact controller.statistics_askRegistry _
  | addUsage node amount => exact controller.statistics_tellRegistry _
  | markOffline node => exact controller.statistics_tellRegistry _
  | compute node left operator right => rfl
  | count line => rfl

end Controller

/-! ## Sessions in progress -/

/-- The lines that a session is about to record. -/
def Activity.unrecorded : Activity → List String
  | .due inquiry => inquiry.query.recorded
  | _ => []

/-- A session is about to record the line that it handles, or nothing. -/
def Activity.RecordsFirst : Activity → Prop
  | .idle _ | .ended => True
  | .due inquiry => ∀ answer, (inquiry.next answer).Uses Query.IsSilent
  | .sent inquiry =>
      inquiry.query.IsSilent ∧ ∀ answer, (inquiry.next answer).Uses Query.IsSilent
  | .answered inquiry answer => (inquiry.next answer).Uses Query.IsSilent

/-- The line of a compute request. -/
def TrafficEvent.compute : TrafficEvent → List String
  | .request _ line => if IsCompute line then [line] else []
  | _ => []

namespace Traffic

/-- The compute requests of a run, whoever makes them. -/
def computeRequests (events : List TrafficEvent) : List String :=
  events.flatMap TrafficEvent.compute

def unrecorded (traffic : Traffic) : List String := traffic.sessions.flatMap Activity.unrecorded

/-- What was recorded, with what is still to be recorded, is what was requested. -/
structure Tallied (traffic : Traffic) (requested recorded : List String) : Prop where
  first : ∀ activity ∈ traffic.sessions, activity.RecordsFirst
  statistics : traffic.controller.statistics = Statistics.empty.recordAll recorded
  complete : (recorded ++ traffic.unrecorded).Perm requested

theorem Tallied.start (ceiling : UInt64) (users : List User) (registry : Registry)
    (clients : Nat) : (start ceiling users registry clients).Tallied [] [] where
  first := by
    intro activity member
    rw [List.eq_of_mem_replicate member]
    trivial
  statistics := rfl
  complete := by
    have nothing : (Traffic.start ceiling users registry clients).unrecorded = [] := by
      apply List.flatMap_eq_nil_iff.mpr
      intro activity member
      rw [List.eq_of_mem_replicate member]
      rfl
    rw [nothing]
    rfl

/-! ## Steps -/

section Steps

variable {traffic after : Traffic} {client : Nat} {requested recorded : List String}

/-- A step that concerns no session and no statistics. -/
theorem Tallied.frame (tallied : traffic.Tallied requested recorded)
    (sessions : after.sessions = traffic.sessions)
    (statistics : after.controller.statistics = traffic.controller.statistics) :
    after.Tallied requested recorded := by
  refine ⟨?_, statistics.trans tallied.statistics, ?_⟩
  · rw [sessions]
    exact tallied.first
  · rw [unrecorded, sessions]
    exact tallied.complete

/-- One session goes on. What it was about to record and what it is now asked for is what was
recorded and what it is now about to record. -/
theorem Tallied.replace {old new : Activity} {asked more : List String}
    (tallied : traffic.Tallied requested recorded)
    (found : traffic.sessions[client]? = some old)
    (sessions : after.sessions = traffic.sessions.set client new)
    (statistics : after.controller.statistics = traffic.controller.statistics.recordAll more)
    (first : new.RecordsFirst) (kept : old.unrecorded ++ asked = more ++ new.unrecorded) :
    after.Tallied (requested ++ asked) (recorded ++ more) where
  first := by
    intro activity member
    rw [sessions] at member
    rcases List.mem_or_eq_of_mem_set member with earlier | rfl
    · exact tallied.first activity earlier
    · exact first
  statistics := by
    rw [statistics, tallied.statistics, Statistics.recordAll, Statistics.recordAll,
      Statistics.recordAll, List.foldl_append]
  complete := by
    rw [List.perm_iff_count]
    intro line
    have before := tallied.complete.count_eq line
    have changed := count_flatMap_set new found Activity.unrecorded line
    have keptOf := congrArg (List.count line) kept
    simp only [unrecorded, sessions, List.count_append] at before keptOf ⊢
    omega

/-- A session takes up what is left of a request. -/
theorem Tallied.goOn {old : Activity} {session : Session} {line : String}
    {process : Process (Response × Session)} {asked more : List String}
    (tallied : traffic.Tallied requested recorded)
    (found : traffic.sessions[client]? = some old)
    (statistics : after.controller.statistics = traffic.controller.statistics.recordAll more)
    (sessions : after.sessions = traffic.sessions)
    (first : process.RecordsFirst) (kept : old.unrecorded ++ asked = more ++ process.recorded) :
    (after.goOn client session line process).1.Tallied (requested ++ asked)
      (recorded ++ more) := by
  cases process with
  | done result =>
      have changed : (after.set client (.idle result.2)).sessions =
          traffic.sessions.set client (.idle result.2) := by rw [set, sessions]
      exact tallied.replace found changed statistics trivial kept
  | ask query next =>
      have changed : (after.set client (.due ⟨session, line, query, next⟩)).sessions =
          traffic.sessions.set client (.due ⟨session, line, query, next⟩) := by rw [set, sessions]
      exact tallied.replace found changed statistics first kept

theorem sessions_part (traffic : Traffic) (client : Nat) (session : Session) :
    (traffic.part client session).sessions = traffic.sessions.set client .ended := by
  unfold part
  split
  · rfl
  · rfl

theorem controller_part (traffic : Traffic) (client : Nat) (session : Session) :
    (traffic.part client session).controller = traffic.controller := by
  unfold part
  split
  · rfl
  · rfl

/-- An actor answers a session, or the session ends because the actor has stopped. -/
theorem Tallied.handleQuestion (tallied : traffic.Tallied requested recorded) (client : Nat) :
    (traffic.handleQuestion client).Tallied requested recorded := by
  unfold Traffic.handleQuestion
  split
  · next inquiry found =>
      obtain ⟨silent, rest⟩ := tallied.first _ (List.mem_of_getElem? found)
      have unchanged := traffic.controller.statistics_answer .inPlace inquiry.query
      rw [silent] at unchanged
      have untouched (after : Traffic) (new : Activity)
          (sessions : after.sessions = traffic.sessions.set client new)
          (statistics : after.controller.statistics = traffic.controller.statistics)
          (first : new.RecordsFirst) (nothing : new.unrecorded = []) :
          after.Tallied requested recorded := by
        have replaced : after.Tallied (requested ++ []) (recorded ++ []) :=
          tallied.replace found sessions statistics first nothing.symm
        rwa [List.append_nil, List.append_nil] at replaced
      split
      · next answer controller answered =>
          rw [answered] at unchanged
          exact untouched _ (.answered inquiry answer) rfl unchanged (rest answer) rfl
      · next fault controller answered =>
          rw [answered] at unchanged
          refine untouched _ .ended (sessions_part _ client inquiry.session) ?_ trivial rfl
          rw [controller_part]
          exact unchanged
  · exact tallied

/-- A session makes its query, which records the line of the query at once, if it has one. -/
theorem Tallied.act (tallied : traffic.Tallied requested recorded) {inquiry : Inquiry}
    (found : traffic.sessions[client]? = some (.due inquiry)) :
    (traffic.act client inquiry).1.Tallied requested (recorded ++ inquiry.query.recorded) := by
  have rest := tallied.first _ (List.mem_of_getElem? found)
  obtain ⟨session, line, query, next⟩ := inquiry
  have posted (after : Traffic) (answer : query.Answer)
      (statistics : after.controller.statistics =
        traffic.controller.statistics.recordAll query.recorded)
      (sessions : after.sessions = traffic.sessions) :
      (after.goOn client session line (next answer)).1.Tallied requested
        (recorded ++ query.recorded) := by
    obtain ⟨first, silent⟩ := Process.records_of_silent (rest answer)
    have kept : (Activity.due ⟨session, line, query, next⟩).unrecorded ++ [] =
        query.recorded ++ (next answer).recorded := by
      rw [silent]
      rfl
    have wentOn : (after.goOn client session line (next answer)).1.Tallied (requested ++ [])
        (recorded ++ query.recorded) := tallied.goOn found statistics sessions first kept
    rwa [List.append_nil] at wentOn
  have waits (after : Traffic) (silent : query.IsSilent)
      (sessions : after.sessions =
        traffic.sessions.set client (.sent ⟨session, line, query, next⟩))
      (controller : after.controller = traffic.controller) :
      after.Tallied requested (recorded ++ query.recorded) := by
    have statistics : after.controller.statistics =
        traffic.controller.statistics.recordAll query.recorded := by
      rw [controller, silent]
      rfl
    have replaced : after.Tallied (requested ++ []) (recorded ++ query.recorded) :=
      tallied.replace found sessions statistics ⟨silent, rest⟩ rfl
    rwa [List.append_nil] at replaced
  cases query with
  | logout name => exact posted _ () rfl rfl
  | addUsage node amount => exact posted _ () rfl rfl
  | markOffline node => exact posted _ () rfl rfl
  | count text => exact posted _ () rfl rfl
  | login name password => exact waits _ rfl rfl rfl
  | credits name => exact waits _ rfl rfl rfl
  | adjust name delta => exact waits _ rfl rfl rfl
  | availableOperators => exact waits _ rfl rfl rfl
  | pick operator => exact waits _ rfl rfl rfl
  | compute node left operator right => exact waits _ rfl rfl rfl

/-- A step by which nothing is requested or recorded. -/
theorem Tallied.quiet (tallied : after.Tallied requested recorded) {event : TrafficEvent}
    (nothing : event.compute = []) :
    ∃ more, after.Tallied (requested ++ event.compute) (recorded ++ more) := by
  refine ⟨[], ?_⟩
  rwa [nothing, List.append_nil, List.append_nil]

theorem step_tallied {event : TrafficEvent} {occurrences : List Occurrence}
    (stepped : traffic.step? event = some (after, occurrences))
    (tallied : traffic.Tallied requested recorded) :
    ∃ more, after.Tallied (requested ++ event.compute) (recorded ++ more) := by
  cases moves_of_step? stepped with
  | @request client session line found =>
      obtain ⟨first, recordsLine⟩ := session.handle_records line
      exact ⟨[], tallied.goOn found rfl rfl first recordsLine.symm⟩
  | @leave client session found =>
      have parted : (traffic.part client session).Tallied (requested ++ []) (recorded ++ []) := by
        refine tallied.replace found (sessions_part traffic client session) ?_ trivial rfl
        rw [controller_part]
        rfl
      exact ⟨[], parted⟩
  | @act client inquiry found =>
      refine ⟨inquiry.query.recorded, ?_⟩
      have acted := tallied.act found
      rwa [← List.append_nil requested] at acted
  | reply answer found =>
      obtain ⟨-, rest⟩ := tallied.first _ (List.mem_of_getElem? found)
      exact ⟨[], tallied.replace found rfl rfl (rest answer) rfl⟩
  | @resume client inquiry answer found =>
      have silent := tallied.first _ (List.mem_of_getElem? found)
      obtain ⟨first, nothing⟩ := Process.records_of_silent silent
      exact ⟨[], tallied.goOn found rfl rfl first nothing.symm⟩
  | @accountsQuestion client rest waiting =>
      have unposted : { traffic with accountsMail := rest }.Tallied requested recorded :=
        tallied.frame rfl rfl
      exact Tallied.quiet (unposted.handleQuestion client) rfl
  | logout waiting =>
      apply Tallied.quiet _ rfl
      exact tallied.frame rfl (traffic.controller.statistics_tellAccounts _)
  | @registryQuestion client rest waiting =>
      have unposted : { traffic with registryMail := rest }.Tallied requested recorded :=
        tallied.frame rfl rfl
      exact Tallied.quiet (unposted.handleQuestion client) rfl
  | addUsage waiting =>
      apply Tallied.quiet _ rfl
      exact tallied.frame rfl (traffic.controller.statistics_tellRegistry _)
  | markOffline waiting =>
      apply Tallied.quiet _ rfl
      exact tallied.frame rfl (traffic.controller.statistics_tellRegistry _)
  | others request =>
      apply Tallied.quiet _ rfl
      exact tallied.frame rfl (traffic.controller.statistics_requestRegistry _)

end Steps

theorem run_tallied {traffic after : Traffic} {events : List TrafficEvent}
    {record : List Occurrence} {requested recorded : List String}
    (ran : traffic.run? events = some (after, record))
    (tallied : traffic.Tallied requested recorded) :
    ∃ more, after.Tallied (requested ++ computeRequests events) (recorded ++ more) := by
  induction events generalizing traffic requested recorded record with
  | nil =>
      obtain ⟨rfl, -⟩ := Prod.mk.inj (Option.some.inj ran)
      exact ⟨[], by rwa [computeRequests, List.flatMap_nil, List.append_nil, List.append_nil]⟩
  | cons event others inductionHypothesis =>
      obtain ⟨middle, occurrences, later, stepped, rest, -⟩ := run?_cons ran
      obtain ⟨some, talliedMiddle⟩ := step_tallied stepped tallied
      obtain ⟨more, talliedAfter⟩ := inductionHypothesis rest talliedMiddle
      refine ⟨some ++ more, ?_⟩
      rwa [List.append_assoc, List.append_assoc] at talliedAfter

/-- After a run, the statistics and what sessions are about to record make up what was
requested. -/
theorem run_counts {ceiling : UInt64} {users : List User} {registry : Registry} {clients : Nat}
    {events : List TrafficEvent} {after : Traffic} {record : List Occurrence}
    (ran : (start ceiling users registry clients).run? events = some (after, record))
    (few : wordCount (computeRequests events) < 2 ^ 64) (operator : Operator) :
    (after.controller.statistics.count operator).toNat + tally operator after.unrecorded =
      tally operator (computeRequests events) := by
  obtain ⟨recorded, tallied⟩ := run_tallied ran (.start ceiling users registry clients)
  have complete : tally operator recorded + tally operator after.unrecorded =
      tally operator (computeRequests events) := by
    rw [← tally_append]
    exact tally_of_perm operator tallied.complete
  have bounded := tally_le operator (computeRequests events)
  have counted : (after.controller.statistics.count operator).toNat = tally operator recorded := by
    rw [tallied.statistics, List.nil_append]
    exact Statistics.toNat_count_recordAll (by omega)
  omega

end Traffic

/-- The count of an operator is the number of words that are this operator and nothing else,
behind the keyword of a compute request, whatever the order of the lines. -/
theorem operators_are_counted :
    (∀ lines : List String, wordCount lines < 2 ^ 64 → ∀ operator,
      ((Statistics.empty.recordAll lines).count operator).toNat = tally operator lines) ∧
    (∀ lines others : List String, lines.Perm others →
      Statistics.empty.recordAll lines = Statistics.empty.recordAll others) ∧
    (∀ (line : String) (expression : Expression), HasKeyword line →
      Expression.ofWords? (words line.toList).tail = some expression → ∀ operator,
        mentions operator line = (expression.steps.map Prod.fst).count operator) ∧
    (∀ (ceiling : UInt64) (users : List User) (registry : Registry) (clients : Nat)
      (events : List TrafficEvent) (after : Traffic) (record : List Occurrence),
      (Traffic.start ceiling users registry clients).run? events = some (after, record) →
      wordCount (Traffic.computeRequests events) < 2 ^ 64 → ∀ operator,
        (after.controller.statistics.count operator).toNat + tally operator after.unrecorded =
          tally operator (Traffic.computeRequests events)) ∧
    ∀ statistics : Statistics,
      statistics.sorted.Perm
          (Operator.all.map fun operator => (operator, statistics.count operator)) ∧
        statistics.sorted.Pairwise Statistics.Precedes := by
  refine ⟨?_, ?_, ?_, ?_, ?_⟩
  · intro lines few operator
    have bounded := tally_le operator lines
    exact Statistics.toNat_count_recordAll (by omega)
  · intro lines others same
    exact Statistics.recordAll_of_perm _ same
  · intro line expression keyword read operator
    exact mentions_of_expression keyword read operator
  · intro ceiling users registry clients events after record ran few operator
    exact Traffic.run_counts ran few operator
  · intro statistics
    exact ⟨statistics.sorted_perm, statistics.pairwise_sorted⟩

/-- Two sessions without users request at the same time. One has not recorded its line yet. -/
theorem operators_are_counted_interleaved :
    let events : List TrafficEvent := [.request 0 "!compute 1 + -2 +", .request 1 "!compute 3 * 4",
      .act 0, .request 0 "compute - -"]
    (∃ after record, (Traffic.start 8 [] .empty 2).run? events = some (after, record) ∧
      after.unrecorded = ["!compute 3 * 4"] ∧
      ∀ operator, (after.controller.statistics.count operator).toNat +
          tally operator ["!compute 3 * 4"] =
        tally operator ["!compute 1 + -2 +", "!compute 3 * 4"]) ∧
      ((Statistics.empty.recordAll ["compute - -"]).count .sub).toNat = 2 ∧
      Statistics.empty.recordAll ["compute -", "!compute +"] =
        Statistics.empty.recordAll ["!compute +", "compute -"] ∧
      mentions .add "!compute 1 + -2" = 1 := by
  intro events
  have few : wordCount (Traffic.computeRequests events) < 2 ^ 64 := by decide
  have ran : (Traffic.start 8 [] .empty 2).run? events = some (_, _) := rfl
  refine ⟨⟨_, _, ran, by decide, ?_⟩, ?_, ?_, ?_⟩
  · exact operators_are_counted.2.2.2.1 8 [] .empty 2 events _ _ ran few
  · exact operators_are_counted.1 ["compute - -"] (by decide) .sub
  · exact operators_are_counted.2.1 _ _ (List.Perm.swap _ _ _)
  · exact operators_are_counted.2.2.1 "!compute 1 + -2" ⟨1, [(.add, -2)]⟩ (by decide) (by decide)
      .add

end ArithmeticCloud.Service
