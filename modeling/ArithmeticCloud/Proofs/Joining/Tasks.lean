import ArithmeticCloud.Proofs.Joining.Coherence
import ArithmeticCloud.Proofs.Joining.Turns

/-!
Contract: the whole run of a joiner's task, with stops and foreign requests at any moment.

Owns:
- `Agent.Turn`, what a step of the task can do, said once;
- `Course`, how far the task has come: a snapshot is adopted at most once, notices go out
  when all shares have ended, and every peer that was sent a share is sent a notice;
- what the node shows about its attempt, and when it tells that it is alive.

Does not own: the levels of the node, to which other rounds contribute.
-/

namespace ArithmeticCloud.Joining

open Network Node Wire

namespace Agent

/-- What a step of the task can do. -/
inductive Turn : Agent → AgentEvent → Agent → List Attempt → Prop where
  | stop (agent : Agent) : Turn agent .stop { agent with stopping := true } []
  | request (agent : Agent) (request : NodeRequest) :
      Turn agent (.request request) { agent with levels := agent.levels.handle request } []
  | quit (levels : Levels) (state : JoinState) {stage : Stage}
      (waits : stage = .requesting ∨ stage = .heartbeating) :
      Turn ⟨stage, levels, state, true⟩ .quit ⟨.ended, levels, state, true⟩ []
  | snapshot (levels : Levels) (state : JoinState) (stopping : Bool) (snapshot : Snapshot) :
      Turn ⟨.requesting, levels, state, stopping⟩ (.snapshot snapshot)
        ⟨.sharing (.ofSnapshot snapshot levels.minimum) (List.range snapshot.peers.length), levels,
          state, stopping⟩
        (shareAttempts (.ofSnapshot snapshot levels.minimum))
  | requestFailed (levels : Levels) (state : JoinState) (stopping : Bool) :
      Turn ⟨.requesting, levels, state, stopping⟩ .requestFailed
        ⟨.ended, levels, .rejected, stopping⟩ []
  | shareEnded (round : JoinRound) (levels : Levels) (state : JoinState) (stopping : Bool)
      {unanswered : List Nat} {position : Nat} (answer : Except Fault Vote)
      (isOpen : position ∈ unanswered) :
      Turn ⟨.sharing round unanswered, levels, state, stopping⟩ (.shareEnded position answer)
        ⟨.sharing (round.hear answer) (unanswered.erase position), levels, state, stopping⟩ []
  | decide (round : JoinRound) (levels : Levels) (state : JoinState) (stopping : Bool) :
      Turn ⟨.sharing round [], levels, state, stopping⟩ .decide
        ⟨.notifying round (List.range round.peers.length), levels.stage round.proposed, state,
          stopping⟩
        (noticeAttempts round)
  | noticeEnded (round : JoinRound) (levels : Levels) (state : JoinState) (stopping : Bool)
      {unsent : List Nat} {position : Nat} (isOpen : position ∈ unsent) :
      Turn ⟨.notifying round unsent, levels, state, stopping⟩ (.noticeEnded position)
        ⟨.notifying round (unsent.erase position), levels, state, stopping⟩ []
  | publish (round : JoinRound) (levels : Levels) (state : JoinState) (stopping : Bool) :
      Turn ⟨.notifying round [], levels, state, stopping⟩ .publish
        ⟨.published round.agreed, (round.settle levels).2, (round.settle levels).1.shown,
          stopping⟩ []
  | proceed (joined : Bool) (levels : Levels) (state : JoinState) (stopping : Bool) :
      Turn ⟨.published joined, levels, state, stopping⟩ .proceed
        ⟨if joined && !stopping then .heartbeating else .ended, levels, state, stopping⟩ []
  | tick (levels : Levels) (state : JoinState) (stopping : Bool) :
      Turn ⟨.heartbeating, levels, state, stopping⟩ .tick
        ⟨.heartbeating, levels, state, stopping⟩ [.alive]

theorem turn_of_step? {agent next : Agent} {event : AgentEvent} {attempts : List Attempt}
    (stepped : agent.step? event = some (next, attempts)) : Turn agent event next attempts := by
  obtain ⟨stage, levels, state, stopping⟩ := agent
  cases event with
  | stop =>
      cases stepped
      exact .stop _
  | request request =>
      cases stepped
      exact .request _ request
  | quit =>
      cases stage with
      | requesting =>
          cases stopping with
          | false => cases stepped
          | true =>
              cases stepped
              exact .quit levels state (.inl rfl)
      | heartbeating =>
          cases stopping with
          | false => cases stepped
          | true =>
              cases stepped
              exact .quit levels state (.inr rfl)
      | _ => cases stepped
  | snapshot snapshot =>
      cases stage with
      | requesting =>
          cases stepped
          exact .snapshot levels state stopping snapshot
      | _ => cases stepped
  | requestFailed =>
      cases stage with
      | requesting =>
          cases stepped
          exact .requestFailed levels state stopping
      | _ => cases stepped
  | shareEnded position answer =>
      cases stage with
      | sharing round unanswered =>
          rw [step?] at stepped
          dsimp only at stepped
          split at stepped
          · next isOpen =>
              cases stepped
              exact .shareEnded round levels state stopping answer isOpen
          · cases stepped
      | _ => cases stepped
  | decide =>
      cases stage with
      | sharing round unanswered =>
          cases unanswered with
          | nil =>
              cases stepped
              exact .decide round levels state stopping
          | cons position others => cases stepped
      | _ => cases stepped
  | noticeEnded position =>
      cases stage with
      | notifying round unsent =>
          rw [step?] at stepped
          dsimp only at stepped
          split at stepped
          · next isOpen =>
              cases stepped
              exact .noticeEnded round levels state stopping isOpen
          · cases stepped
      | _ => cases stepped
  | publish =>
      cases stage with
      | notifying round unsent =>
          cases unsent with
          | nil =>
              obtain ⟨peers, proposed, agreed⟩ := round
              cases agreed with
              | true =>
                  cases stepped
                  exact .publish ⟨peers, proposed, true⟩ levels state stopping
              | false =>
                  cases stepped
                  exact .publish ⟨peers, proposed, false⟩ levels state stopping
          | cons position others => cases stepped
      | _ => cases stepped
  | proceed =>
      cases stage with
      | published joined =>
          cases stepped
          exact .proceed joined levels state stopping
      | _ => cases stepped
  | tick =>
      cases stage with
      | heartbeating =>
          cases stepped
          exact .tick levels state stopping
      | _ => cases stepped

end Agent

/-! ## How far a task has come -/

/-- Whether a task asks, shares and notifies no more. -/
def Stage.isOver : Stage → Bool
  | .published _ | .heartbeating | .ended => true
  | .requesting | .sharing .. | .notifying .. => false

/-- Whether an event tells the task something about the membership or the peers. -/
def AgentEvent.isNews : AgentEvent → Bool
  | .snapshot _ | .shareEnded .. => true
  | _ => false

/-- No snapshot is adopted, and no share exchange has ended. -/
structure Unadopted (events : List AgentEvent) : Prop where
  adopted : ∀ snapshot, .snapshot snapshot ∉ events
  heard : ∀ position answer, .shareEnded position answer ∉ events

/-- One snapshot is adopted. The node agrees if it accepts the share that the snapshot implies
and no answer so far is a veto. -/
structure Adopted (minimum : UInt64) (events : List AgentEvent) (snapshot : Snapshot)
    (agreed : Bool) : Prop where
  adopted : .snapshot snapshot ∈ events
  only : ∀ other, .snapshot other ∈ events → other = snapshot
  agrees : agreed = true ↔ minimum ≤ snapshot.proposedShare ∧
    ∀ position answer, .shareEnded position answer ∈ events → isVeto answer = false

/-- The share exchange with every peer has ended. -/
def AllHeard (events : List AgentEvent) (snapshot : Snapshot) : Prop :=
  ∀ position, position < snapshot.peers.length → ∃ answer, .shareEnded position answer ∈ events

/-- What a node shows after a round. -/
def Shown (agreed : Bool) (state : JoinState) : Prop :=
  if agreed then ∃ share, state = .joined share else state = .rejected

/-- The round is over and its outcome is shown. -/
structure Concluded (minimum : UInt64) (events : List AgentEvent) (snapshot : Snapshot)
    (agreed : Bool) (state : JoinState) : Prop where
  adopted : Adopted minimum events snapshot agreed
  heard : AllHeard events snapshot
  published : .publish ∈ events
  shown : Shown agreed state

/-- The task went on after its outcome was published, and had not been stopped by then. -/
def Unstopped (events : List AgentEvent) : Prop :=
  ∃ before after, events = before ++ .proceed :: after ∧ .publish ∈ before ∧ .stop ∉ before

/-- A share for every peer, and then a notice for every peer. -/
def roundAttempts (snapshot : Snapshot) (agreed : Bool) : List Attempt :=
  Agent.shareAttempts (.over snapshot agreed) ++ Agent.noticeAttempts (.over snapshot agreed)

/-- How far a task has come, what it shows and what it has attempted. -/
inductive Course (minimum : UInt64) (events : List AgentEvent) :
    Stage → JoinState → List Attempt → Prop where
  | requesting (unadopted : Unadopted events) : Course minimum events .requesting .pending []
  | sharing {snapshot : Snapshot} {agreed : Bool} {unanswered : List Nat}
      (adopted : Adopted minimum events snapshot agreed)
      (heard : ∀ position, position < snapshot.peers.length → position ∉ unanswered →
        ∃ answer, .shareEnded position answer ∈ events) :
      Course minimum events (.sharing (.over snapshot agreed) unanswered) .pending
        (Agent.shareAttempts (.over snapshot agreed))
  | notifying {snapshot : Snapshot} {agreed : Bool} (unsent : List Nat)
      (adopted : Adopted minimum events snapshot agreed) (heard : AllHeard events snapshot) :
      Course minimum events (.notifying (.over snapshot agreed) unsent) .pending
        (roundAttempts snapshot agreed)
  | published {snapshot : Snapshot} {agreed : Bool} {state : JoinState}
      (concluded : Concluded minimum events snapshot agreed state) :
      Course minimum events (.published agreed) state (roundAttempts snapshot agreed)
  | heartbeating {snapshot : Snapshot} {state : JoinState} (count : Nat)
      (concluded : Concluded minimum events snapshot true state) (unstopped : Unstopped events) :
      Course minimum events .heartbeating state
        (roundAttempts snapshot true ++ List.replicate count .alive)
  | ended {snapshot : Snapshot} {agreed : Bool} {state : JoinState} (count : Nat)
      (concluded : Concluded minimum events snapshot agreed state)
      (alive : 0 < count → agreed = true ∧ Unstopped events) :
      Course minimum events .ended state
        (roundAttempts snapshot agreed ++ List.replicate count .alive)
  | stopped (unadopted : Unadopted events) (told : .stop ∈ events) :
      Course minimum events .ended .pending []
  | failed (unadopted : Unadopted events) (told : .requestFailed ∈ events) :
      Course minimum events .ended .rejected []

section Concat

variable {minimum : UInt64} {events : List AgentEvent} {event : AgentEvent} {snapshot : Snapshot}
  {agreed : Bool} {state : JoinState}

theorem snapshot_mem_concat (quiet : event.isNews = false) {snapshot : Snapshot} :
    .snapshot snapshot ∈ events ++ [event] ↔ .snapshot snapshot ∈ events := by
  rw [List.mem_append, List.mem_singleton, or_iff_left]
  rintro rfl
  cases quiet

theorem shareEnded_mem_concat (quiet : event.isNews = false) {position : Nat}
    {answer : Except Fault Vote} :
    .shareEnded position answer ∈ events ++ [event] ↔ .shareEnded position answer ∈ events := by
  rw [List.mem_append, List.mem_singleton, or_iff_left]
  rintro rfl
  cases quiet

theorem Unadopted.concat (unadopted : Unadopted events) (quiet : event.isNews = false) :
    Unadopted (events ++ [event]) where
  adopted snapshot := mt (snapshot_mem_concat quiet).mp (unadopted.adopted snapshot)
  heard position answer := mt (shareEnded_mem_concat quiet).mp (unadopted.heard position answer)

theorem Adopted.concat (adopted : Adopted minimum events snapshot agreed)
    (quiet : event.isNews = false) : Adopted minimum (events ++ [event]) snapshot agreed where
  adopted := List.mem_append_left _ adopted.adopted
  only other member := adopted.only other ((snapshot_mem_concat quiet).mp member)
  agrees := by
    simp only [shareEnded_mem_concat quiet]
    exact adopted.agrees

theorem AllHeard.concat (heard : AllHeard events snapshot) (event : AgentEvent) :
    AllHeard (events ++ [event]) snapshot := by
  intro position inside
  obtain ⟨answer, member⟩ := heard position inside
  exact ⟨answer, List.mem_append_left _ member⟩

theorem Unstopped.concat (unstopped : Unstopped events) (event : AgentEvent) :
    Unstopped (events ++ [event]) := by
  obtain ⟨before, after, rfl, published, untold⟩ := unstopped
  exact ⟨before, after ++ [event], by simp, published, untold⟩

theorem Concluded.concat (concluded : Concluded minimum events snapshot agreed state)
    (quiet : event.isNews = false) : Concluded minimum (events ++ [event]) snapshot agreed state :=
  ⟨concluded.adopted.concat quiet, concluded.heard.concat event,
    List.mem_append_left _ concluded.published, concluded.shown⟩

/-- What others do changes nothing about how far the task has come. -/
theorem Course.concat {stage : Stage} {attempts : List Attempt}
    (course : Course minimum events stage state attempts) (quiet : event.isNews = false) :
    Course minimum (events ++ [event]) stage state attempts := by
  cases course with
  | requesting unadopted => exact .requesting (unadopted.concat quiet)
  | sharing adopted heard =>
      refine .sharing (adopted.concat quiet) fun position inside closed => ?_
      obtain ⟨answer, member⟩ := heard position inside closed
      exact ⟨answer, List.mem_append_left _ member⟩
  | notifying unsent adopted heard =>
      exact .notifying unsent (adopted.concat quiet) (heard.concat event)
  | published concluded => exact .published (concluded.concat quiet)
  | heartbeating count concluded unstopped =>
      exact .heartbeating count (concluded.concat quiet) (unstopped.concat event)
  | ended count concluded alive =>
      exact .ended count (concluded.concat quiet) fun some =>
        (alive some).imp_right fun unstopped => unstopped.concat event
  | stopped unadopted told =>
      exact .stopped (unadopted.concat quiet) (List.mem_append_left _ told)
  | failed unadopted told =>
      exact .failed (unadopted.concat quiet) (List.mem_append_left _ told)

end Concat

/-- The node adopts a snapshot and accepts the share that it implies, or does not. -/
theorem Unadopted.adopt {minimum : UInt64} {events : List AgentEvent}
    (unadopted : Unadopted events) (snapshot : Snapshot) :
    Adopted minimum (events ++ [.snapshot snapshot]) snapshot
      (decide (minimum ≤ snapshot.proposedShare)) where
  adopted := List.mem_append_right _ (List.mem_singleton_self _)
  only other member := by
    rcases List.mem_append.mp member with earlier | new
    · exact absurd earlier (unadopted.adopted other)
    · cases List.mem_singleton.mp new
      rfl
  agrees := by
    rw [decide_eq_true_iff, iff_self_and]
    intro accepted position answer member
    rcases List.mem_append.mp member with earlier | new
    · exact absurd earlier (unadopted.heard position answer)
    · cases List.mem_singleton.mp new

/-- The events say whether a node agrees. -/
theorem Adopted.agreed_eq {minimum : UInt64} {events : List AgentEvent}
    {snapshot other : Snapshot} {agreed agrees : Bool}
    (adopted : Adopted minimum events snapshot agreed)
    (again : Adopted minimum events other agrees) : agreed = agrees := by
  obtain rfl := again.only snapshot adopted.adopted
  exact Bool.eq_iff_iff.mpr (adopted.agrees.trans again.agrees.symm)

/-- One more answer. -/
theorem Adopted.hear {minimum : UInt64} {events : List AgentEvent} {snapshot : Snapshot}
    {agreed : Bool} (adopted : Adopted minimum events snapshot agreed) (position : Nat)
    (answer : Except Fault Vote) :
    Adopted minimum (events ++ [.shareEnded position answer]) snapshot
      (agreed && !isVeto answer) where
  adopted := List.mem_append_left _ adopted.adopted
  only other member := by
    rcases List.mem_append.mp member with earlier | new
    · exact adopted.only other earlier
    · cases List.mem_singleton.mp new
  agrees := by
    rw [Bool.and_eq_true, adopted.agrees, Bool.not_eq_true', and_assoc]
    refine and_congr_right fun accepted => ⟨?_, ?_⟩
    · rintro ⟨earlier, last⟩ place other member
      rcases List.mem_append.mp member with before | new
      · exact earlier place other before
      · cases List.mem_singleton.mp new
        exact last
    · intro all
      refine ⟨fun place other member => all place other (List.mem_append_left _ member), ?_⟩
      exact all position answer (List.mem_append_right _ (List.mem_singleton_self _))

/-! ### Steps of the task itself -/

section Advance

variable {minimum : UInt64} {events : List AgentEvent} {snapshot : Snapshot} {agreed : Bool}
  {state : JoinState}

theorem Unadopted.course_adopt (unadopted : Unadopted events) (snapshot : Snapshot) :
    Course minimum (events ++ [.snapshot snapshot])
      (.sharing (.ofSnapshot snapshot minimum) (List.range snapshot.peers.length)) .pending
      (Agent.shareAttempts (.ofSnapshot snapshot minimum)) :=
  Course.sharing (unadopted.adopt snapshot) fun _ inside closed =>
    absurd (List.mem_range.mpr inside) closed

/-- The exchange that has ended is closed, and the others are as before. -/
theorem Adopted.course_hear (adopted : Adopted minimum events snapshot agreed)
    {unanswered : List Nat}
    (heard : ∀ position, position < snapshot.peers.length → position ∉ unanswered →
      ∃ answer, .shareEnded position answer ∈ events)
    (place : Nat) (answer : Except Fault Vote) :
    Course minimum (events ++ [.shareEnded place answer])
      (.sharing (.over snapshot (agreed && !isVeto answer)) (unanswered.erase place)) .pending
      (Agent.shareAttempts (.over snapshot agreed)) := by
  refine Course.sharing (adopted.hear place answer) fun position inside closed => ?_
  by_cases same : position = place
  · rw [same]
    exact ⟨answer, List.mem_append_right _ (List.mem_singleton_self _)⟩
  · rw [List.mem_erase_of_ne same] at closed
    obtain ⟨earlier, member⟩ := heard position inside closed
    exact ⟨earlier, List.mem_append_left _ member⟩

theorem Adopted.course_publish (adopted : Adopted minimum events snapshot agreed)
    (heard : AllHeard events snapshot) (levels : Levels) :
    Course minimum (events ++ [.publish]) (.published agreed)
      ((JoinRound.over snapshot agreed).settle levels).1.shown (roundAttempts snapshot agreed) := by
  have last : .publish ∈ events ++ [.publish] :=
    List.mem_append_right _ (List.mem_singleton_self _)
  refine .published ⟨adopted.concat rfl, heard.concat _, last, ?_⟩
  cases agreed with
  | true => exact ⟨_, rfl⟩
  | false => exact rfl

/-- Only a task that has joined and was not stopped so far goes on to the heartbeat. -/
theorem Concluded.course_proceed (concluded : Concluded minimum events snapshot agreed state)
    {stopping : Bool} (told : stopping = true ↔ .stop ∈ events) :
    Course minimum (events ++ [.proceed])
      (if agreed && !stopping then .heartbeating else .ended) state
      (roundAttempts snapshot agreed) := by
  have none : roundAttempts snapshot agreed =
      roundAttempts snapshot agreed ++ List.replicate 0 .alive := (List.append_nil _).symm
  rw [none]
  split
  · next goesOn =>
      rw [Bool.and_eq_true, Bool.not_eq_true'] at goesOn
      obtain ⟨rfl, rfl⟩ := goesOn
      have untold : .stop ∉ events := fun stopped => Bool.false_ne_true (told.mpr stopped)
      exact .heartbeating 0 (concluded.concat rfl)
        ⟨events, [], rfl, concluded.published, untold⟩
  · exact .ended 0 (concluded.concat rfl) fun some => absurd some (Nat.lt_irrefl 0)

end Advance

/-! ## Runs -/

/-- What holds of a joiner after events. -/
structure Tracks (minimum : UInt64) (events : List AgentEvent) (agent : Agent)
    (attempts : List Attempt) : Prop where
  told : agent.stopping = true ↔ .stop ∈ events
  least : agent.levels.minimum = minimum
  course : Course minimum events agent.stage agent.state attempts

namespace Tracks

variable {minimum : UInt64} {events : List AgentEvent} {agent next final : Agent}
  {event : AgentEvent} {attempts now later : List Attempt}

theorem start (minimum : UInt64) : Tracks minimum [] (Agent.start minimum) [] where
  told := by simp [Agent.start]
  least := rfl
  course := .requesting ⟨fun _ => List.not_mem_nil, fun _ _ => List.not_mem_nil⟩

theorem told_step (tracks : Tracks minimum events agent attempts)
    (turn : Agent.Turn agent event next now) :
    next.stopping = true ↔ .stop ∈ events ++ [event] := by
  rw [List.mem_append, List.mem_singleton, ← tracks.told]
  cases turn <;> simp

theorem least_step (tracks : Tracks minimum events agent attempts)
    (turn : Agent.Turn agent event next now) : next.levels.minimum = minimum := by
  have least := tracks.least
  cases turn with
  | request agent request => exact (agent.levels.minimum_handle request).trans least
  | publish round levels state stopping =>
      rw [JoinRound.settle]
      split <;> exact least
  | _ => exact least

/-- One case for each step. The stage that a step needs leaves one case of the course. -/
theorem course_step (tracks : Tracks minimum events agent attempts)
    (turn : Agent.Turn agent event next now) :
    Course minimum (events ++ [event]) next.stage next.state (attempts ++ now) := by
  obtain ⟨told, least, course⟩ := tracks
  have last : event ∈ events ++ [event] := List.mem_append_right _ (List.mem_singleton_self event)
  cases turn with
  | stop =>
      rw [List.append_nil]
      exact course.concat rfl
  | request =>
      rw [List.append_nil]
      exact course.concat rfl
  | quit levels state waits =>
      have stopped : .stop ∈ events ++ [.quit] := List.mem_append_left _ (told.mp rfl)
      rw [List.append_nil]
      rcases waits with rfl | rfl
      · cases course with
        | requesting unadopted => exact .stopped (unadopted.concat rfl) stopped
      · cases course with
        | heartbeating count concluded unstopped =>
            exact .ended count (concluded.concat rfl) fun _ => ⟨rfl, unstopped.concat _⟩
  | snapshot levels state stopping snapshot =>
      cases course with
      | requesting unadopted => exact least ▸ unadopted.course_adopt snapshot
  | requestFailed levels state stopping =>
      cases course with
      | requesting unadopted => exact .failed (unadopted.concat rfl) last
  | @shareEnded round levels state stopping unanswered place answer isOpen =>
      rw [List.append_nil]
      cases course with
      | sharing adopted heard => exact adopted.course_hear heard place answer
  | decide round levels state stopping =>
      cases course with
      | sharing adopted heard =>
          -- No position is open, so every exchange has ended.
          have allHeard : AllHeard events _ := fun position inside =>
            heard position inside List.not_mem_nil
          exact .notifying _ (adopted.concat rfl) (allHeard.concat .decide)
  | noticeEnded round levels state stopping isOpen =>
      rw [List.append_nil]
      cases course with
      | notifying unsent adopted heard =>
          exact .notifying _ (adopted.concat rfl) (heard.concat _)
  | publish round levels state stopping =>
      rw [List.append_nil]
      cases course with
      | notifying unsent adopted heard => exact adopted.course_publish heard levels
  | proceed joined levels state stopping =>
      rw [List.append_nil]
      cases course with
      | published concluded => exact concluded.course_proceed told
  | tick levels state stopping =>
      cases course with
      | heartbeating count concluded unstopped =>
          rw [List.append_assoc, ← List.replicate_succ']
          exact .heartbeating (count + 1) (concluded.concat rfl) (unstopped.concat .tick)

theorem step (tracks : Tracks minimum events agent attempts)
    (turn : Agent.Turn agent event next now) :
    Tracks minimum (events ++ [event]) next (attempts ++ now) :=
  ⟨tracks.told_step turn, tracks.least_step turn, tracks.course_step turn⟩

/-- What a node shows changes only once. -/
theorem state_step (tracks : Tracks minimum events agent attempts)
    (turn : Agent.Turn agent event next now) :
    agent.state = .pending ∨ next.state = agent.state := by
  obtain ⟨-, -, course⟩ := tracks
  cases turn with
  | requestFailed levels state stopping =>
      cases course with
      | requesting => exact .inl rfl
  | publish round levels state stopping =>
      cases course with
      | notifying => exact .inl rfl
  | _ => exact .inr rfl

theorem run (tracks : Tracks minimum events agent attempts) {others : List AgentEvent}
    (ran : agent.run? others = some (final, later)) :
    Tracks minimum (events ++ others) final (attempts ++ later) ∧
      (agent.state = .pending ∨ final.state = agent.state) := by
  induction others generalizing events agent attempts later with
  | nil =>
      cases ran
      rw [List.append_nil, List.append_nil]
      exact ⟨tracks, .inr rfl⟩
  | cons event others inductionHypothesis =>
      obtain ⟨next, now, after, stepped, ranOthers, rfl⟩ := Agent.step?_of_run?_cons ran
      have turn := Agent.turn_of_step? stepped
      obtain ⟨tracked, kept⟩ := inductionHypothesis (tracks.step turn) ranOthers
      rw [List.append_cons, ← List.append_assoc]
      refine ⟨tracked, ?_⟩
      rcases tracks.state_step turn with pending | still
      · exact .inl pending
      · exact kept.imp still.symm.trans fun settled => settled.trans still

theorem of_run (ran : (Agent.start minimum).run? events = some (agent, attempts)) :
    Tracks minimum events agent attempts :=
  ((start minimum).run ran).1

/-- What is shown when the outcome is published: the level that is committed then, if the
node and its peers agree. -/
theorem publish (tracks : Tracks minimum events agent attempts)
    (turn : Agent.Turn agent .publish next now) :
    ∃ snapshot agreed, Adopted minimum events snapshot agreed ∧
      next.state = if agreed then .joined next.levels.committed else .rejected := by
  obtain ⟨-, -, course⟩ := tracks
  cases turn with
  | publish round levels state stopping =>
      cases course with
      | @notifying snapshot agreed unsent adopted heard =>
          refine ⟨snapshot, agreed, adopted, ?_⟩
          cases agreed with
          | true => rfl
          | false => rfl

end Tracks

/-! ## What is attempted -/

section Attempts

variable {snapshot : Snapshot} {agreed : Bool} {count : Nat}

/-- A notice among all attempts of a task is the notice of its round. -/
theorem notice_of_mem {position : Nat} {peer : Endpoint} {request : NodeRequest}
    (member : .notice position peer request ∈
      roundAttempts snapshot agreed ++ List.replicate count .alive) :
    request = (JoinRound.over snapshot agreed).notice := by
  rcases List.mem_append.mp member with ofRound | alive
  · rcases List.mem_append.mp ofRound with share | notice
    · obtain ⟨place, inside, same⟩ := List.mem_mapIdx.mp share
      cases same
    · exact (line_of_mem_noticeAttempts notice rfl).2
  · cases List.eq_of_mem_replicate alive

theorem pos_of_alive_mem
    (member : .alive ∈ roundAttempts snapshot agreed ++ List.replicate count .alive) :
    0 < count := by
  rcases List.mem_append.mp member with ofRound | alive
  · rcases List.mem_append.mp ofRound with share | notice
    · obtain ⟨place, inside, same⟩ := List.mem_mapIdx.mp share
      cases same
    · obtain ⟨place, inside, same⟩ := List.mem_mapIdx.mp notice
      cases same
  · exact Nat.pos_of_ne_zero fun none => by simp [none] at alive

end Attempts

namespace Course

variable {minimum : UInt64} {events : List AgentEvent} {stage : Stage} {state : JoinState}
  {attempts : List Attempt}

/-- What a task has attempted: nothing, the shares, or a whole round and then only that the node
is alive. -/
theorem attempts_cases (course : Course minimum events stage state attempts) :
    attempts = [] ∨
    (∃ snapshot agreed, attempts = Agent.shareAttempts (.over snapshot agreed)) ∨
    ∃ snapshot agreed count, Adopted minimum events snapshot agreed ∧ AllHeard events snapshot ∧
      attempts = roundAttempts snapshot agreed ++ List.replicate count .alive ∧
      (0 < count → Concluded minimum events snapshot true state ∧ Unstopped events) := by
  cases course with
  | requesting => exact .inl rfl
  | sharing => exact .inr (.inl ⟨_, _, rfl⟩)
  | notifying unsent adopted heard =>
      exact .inr (.inr ⟨_, _, 0, adopted, heard, (List.append_nil _).symm, nofun⟩)
  | published concluded =>
      exact .inr (.inr ⟨_, _, 0, concluded.adopted, concluded.heard, (List.append_nil _).symm,
        nofun⟩)
  | heartbeating count concluded unstopped =>
      exact .inr (.inr ⟨_, _, count, concluded.adopted, concluded.heard, rfl,
        fun _ => ⟨concluded, unstopped⟩⟩)
  | ended count concluded alive =>
      refine .inr (.inr ⟨_, _, count, concluded.adopted, concluded.heard, rfl, fun some => ?_⟩)
      obtain ⟨rfl, unstopped⟩ := alive some
      exact ⟨concluded, unstopped⟩
  | stopped => exact .inl rfl
  | failed => exact .inl rfl

/-- Notices go out when all shares have ended, and are all the same. -/
theorem notices (course : Course minimum events stage state attempts) {position : Nat}
    {peer : Endpoint} {request : NodeRequest} (member : .notice position peer request ∈ attempts) :
    ∃ snapshot, .snapshot snapshot ∈ events ∧ AllHeard events snapshot ∧
      ∀ place endpoint notice, .notice place endpoint notice ∈ attempts → notice = request := by
  rcases course.attempts_cases with
    rfl | ⟨snapshot, agreed, rfl⟩ | ⟨snapshot, agreed, count, adopted, heard, rfl, -⟩
  · cases member
  · obtain ⟨place, inside, same⟩ := List.mem_mapIdx.mp member
    cases same
  · refine ⟨snapshot, adopted.adopted, heard, fun place endpoint notice other => ?_⟩
    rw [notice_of_mem member, notice_of_mem other]

/-- A node tells that it is alive only when it has joined, and was not stopped before. -/
theorem alive (course : Course minimum events stage state attempts) (member : .alive ∈ attempts) :
    (∃ share, state = .joined share) ∧ Unstopped events := by
  rcases course.attempts_cases with
    rfl | ⟨snapshot, agreed, rfl⟩ | ⟨snapshot, agreed, count, -, -, rfl, settled⟩
  · cases member
  · obtain ⟨place, inside, same⟩ := List.mem_mapIdx.mp member
    cases same
  · obtain ⟨concluded, unstopped⟩ := settled (pos_of_alive_mem member)
    exact ⟨concluded.shown, unstopped⟩

/-- A task that is over has found no snapshot, or has settled with every peer. -/
theorem of_isOver (course : Course minimum events stage state attempts)
    (finished : stage.isOver = true) :
    (∀ snapshot, .snapshot snapshot ∉ events) ∧ attempts = [] ∧
        (state = .pending ∧ .stop ∈ events ∨ state = .rejected ∧ .requestFailed ∈ events) ∨
      ∃ snapshot agreed count, Concluded minimum events snapshot agreed state ∧
        attempts = roundAttempts snapshot agreed ++ List.replicate count .alive := by
  cases course with
  | requesting => cases finished
  | sharing => cases finished
  | notifying => cases finished
  | published concluded => exact .inr ⟨_, _, 0, concluded, (List.append_nil _).symm⟩
  | heartbeating count concluded unstopped => exact .inr ⟨_, _, count, concluded, rfl⟩
  | ended count concluded alive => exact .inr ⟨_, _, count, concluded, rfl⟩
  | stopped unadopted told => exact .inl ⟨unadopted.adopted, rfl, .inl ⟨rfl, told⟩⟩
  | failed unadopted told => exact .inl ⟨unadopted.adopted, rfl, .inr ⟨rfl, told⟩⟩

theorem concluded_of_joined {share : UInt64}
    (course : Course minimum events stage (.joined share) attempts) :
    ∃ snapshot, Concluded minimum events snapshot true (.joined share) := by
  -- A round that did not agree shows something else.
  have agreed_of_shown {agreed : Bool} (shown : Shown agreed (.joined share)) : agreed = true := by
    cases agreed with
    | true => rfl
    | false => cases shown
  cases course with
  | published concluded =>
      obtain rfl := agreed_of_shown concluded.shown
      exact ⟨_, concluded⟩
  | heartbeating count concluded => exact ⟨_, concluded⟩
  | ended count concluded =>
      obtain rfl := agreed_of_shown concluded.shown
      exact ⟨_, concluded⟩

theorem not_agreed_of_rejected (course : Course minimum events stage .rejected attempts)
    {snapshot : Snapshot} (adopted : Adopted minimum events snapshot true) : False := by
  have differs {other : Snapshot} {agreed : Bool}
      (concluded : Concluded minimum events other agreed .rejected) : False := by
    obtain rfl := concluded.adopted.agreed_eq adopted
    obtain ⟨share, same⟩ := concluded.shown
    cases same
  cases course with
  | published concluded => exact differs concluded
  | heartbeating count concluded => exact differs concluded
  | ended count concluded => exact differs concluded
  | failed unadopted => exact unadopted.adopted snapshot adopted.adopted

theorem state_of_not_isOver (course : Course minimum events stage state attempts)
    (goesOn : stage.isOver = false) : state = .pending := by
  cases course with
  | requesting => rfl
  | sharing => rfl
  | notifying => rfl
  | _ => cases goesOn

end Course

/-! ## Whole runs -/

variable {minimum : UInt64} {events : List AgentEvent} {agent : Agent} {attempts : List Attempt}

/-- What a node shows changes only once. -/
theorem state_of_earlier (ran : (Agent.start minimum).run? events = some (agent, attempts))
    {before after : List AgentEvent} (split : events = before ++ after) :
    ∃ middle earlier, (Agent.start minimum).run? before = some (middle, earlier) ∧
      (middle.state = .pending ∨ agent.state = middle.state) := by
  subst split
  obtain ⟨middle, earlier, later, first, second⟩ := Agent.exists_of_run?_append ran
  exact ⟨middle, earlier, first, ((Tracks.of_run first).run second).2⟩

/-- What is shown in the end is what was shown when the outcome was published. -/
theorem state_of_publish (ran : (Agent.start minimum).run? events = some (agent, attempts))
    {before after : List AgentEvent} (split : events = before ++ .publish :: after) :
    ∃ middle earlier, (Agent.start minimum).run? (before ++ [.publish]) = some (middle, earlier) ∧
      agent.state = middle.state ∧
      (middle.state = .rejected ∨ middle.state = .joined middle.levels.committed) := by
  rw [List.append_cons] at split
  obtain ⟨middle, earlier, first, kept⟩ := state_of_earlier ran split
  obtain ⟨undecided, others, last, ranOthers, published⟩ := Agent.exists_of_run?_append first
  obtain ⟨next, now, later, stepped, nothing, -⟩ := Agent.step?_of_run?_cons published
  cases nothing
  obtain ⟨snapshot, agreed, -, shown⟩ :=
    (Tracks.of_run ranOthers).publish (Agent.turn_of_step? stepped)
  have settled : middle.state = .rejected ∨ middle.state = .joined middle.levels.committed := by
    cases agreed with
    | true => exact .inr shown
    | false => exact .inl shown
  refine ⟨middle, earlier, first, kept.resolve_left fun pending => ?_, settled⟩
  rw [pending] at settled
  rcases settled with rejected | joined
  · cases rejected
  · cases joined

/-- A node has joined exactly if it and its peers agree and the outcome is published. The share
is what was committed then. -/
theorem joined_iff (ran : (Agent.start minimum).run? events = some (agent, attempts))
    (share : UInt64) :
    agent.state = .joined share ↔
      ∃ before after middle earlier snapshot, events = before ++ .publish :: after ∧
        (Agent.start minimum).run? (before ++ [.publish]) = some (middle, earlier) ∧
        Adopted minimum events snapshot true ∧ middle.levels.committed = share := by
  have course := (Tracks.of_run ran).course
  constructor
  · intro joined
    rw [joined] at course
    obtain ⟨snapshot, concluded⟩ := course.concluded_of_joined
    obtain ⟨before, after, split⟩ := List.append_of_mem concluded.published
    obtain ⟨middle, earlier, first, kept, settled⟩ := state_of_publish ran split
    rw [← kept, joined] at settled
    refine ⟨before, after, middle, earlier, snapshot, split, first, concluded.adopted, ?_⟩
    exact (JoinState.joined.inj (settled.resolve_left nofun)).symm
  · rintro ⟨before, after, middle, earlier, snapshot, split, first, adopted, rfl⟩
    obtain ⟨other, others, second, kept, settled⟩ := state_of_publish ran split
    obtain ⟨rfl, rfl⟩ := Prod.mk.inj (Option.some.inj (first.symm.trans second))
    rw [kept]
    refine settled.resolve_left fun rejected => ?_
    rw [kept, rejected] at course
    exact course.not_agreed_of_rejected adopted

/-- Whenever a task is stopped and whatever its peers answer and other rounds do to the node: no
notice is attempted before all share exchanges have ended, and all notices are the same. A task
that is over has adopted no snapshot and attempted nothing, as it was stopped or its socket failed,
or it has adopted one snapshot and attempted one share and one notice for every entry of its list
of peers, a commit if the node and its peers agree and a rollback otherwise. What the node shows
changes once at most, to joined exactly if they agree, with the share that is committed when the
outcome is published. It tells that it is alive only when it has joined and was not stopped
before. -/
theorem join_tasks_settle_peers (minimum : UInt64) (events : List AgentEvent) {agent : Agent}
    {attempts : List Attempt}
    (ran : (Agent.start minimum).run? events = some (agent, attempts)) :
    (∀ position peer request, .notice position peer request ∈ attempts →
      ∃ snapshot, .snapshot snapshot ∈ events ∧ AllHeard events snapshot ∧
        ∀ place endpoint notice, .notice place endpoint notice ∈ attempts → notice = request) ∧
    (agent.stage.isOver = true →
      (∀ snapshot, .snapshot snapshot ∉ events) ∧ attempts = [] ∧
          (agent.state = .pending ∧ .stop ∈ events ∨
            agent.state = .rejected ∧ .requestFailed ∈ events) ∨
        ∃ snapshot agreed count, Concluded minimum events snapshot agreed agent.state ∧
          attempts = roundAttempts snapshot agreed ++ List.replicate count .alive) ∧
    (agent.stage.isOver = false → agent.state = .pending) ∧
    (∀ before after, events = before ++ after →
      ∃ middle earlier, (Agent.start minimum).run? before = some (middle, earlier) ∧
        (middle.state = .pending ∨ agent.state = middle.state)) ∧
    (∀ share, agent.state = .joined share ↔
      ∃ before after middle earlier snapshot, events = before ++ .publish :: after ∧
        (Agent.start minimum).run? (before ++ [.publish]) = some (middle, earlier) ∧
        Adopted minimum events snapshot true ∧ middle.levels.committed = share) ∧
    (.alive ∈ attempts → (∃ share, agent.state = .joined share) ∧ Unstopped events) := by
  have course := (Tracks.of_run ran).course
  refine ⟨?_, course.of_isOver, course.state_of_not_isOver, ?_, joined_iff ran, course.alive⟩
  · exact fun position peer request member => course.notices member
  · exact fun before after split => state_of_earlier ran split

/-- A stop between the snapshot and the first answer, and a share of another round between the two
phases. -/
def stoppedEarly : List AgentEvent :=
  [.snapshot ⟨[.v4 .loopback 7001, .v4 .loopback 7002], 90⟩, .stop,
    .shareEnded 1 (.error (.transport "connection refused")), .shareEnded 0 (.ok .accept),
    .decide, .request (.share 40), .noticeEnded 0, .noticeEnded 1, .publish, .proceed]

theorem join_tasks_settle_peers_stoppedEarly :
    ∃ agent attempts, (Agent.start 10).run? stoppedEarly = some (agent, attempts) ∧
      agent.state = .joined 40 ∧
      attempts = [.share 0 (.v4 .loopback 7001) 30, .share 1 (.v4 .loopback 7002) 30,
        .notice 0 (.v4 .loopback 7001) (.commit 30), .notice 1 (.v4 .loopback 7002) (.commit 30)] ∧
      ∃ snapshot, AllHeard stoppedEarly snapshot := by
  have ran : (Agent.start 10).run? stoppedEarly =
      some (⟨.ended, ⟨40, 40, 10⟩, .joined 40, true⟩,
        [.share 0 (.v4 .loopback 7001) 30, .share 1 (.v4 .loopback 7002) 30,
          .notice 0 (.v4 .loopback 7001) (.commit 30),
          .notice 1 (.v4 .loopback 7002) (.commit 30)]) := by
    decide +kernel
  obtain ⟨notices, -⟩ := join_tasks_settle_peers 10 stoppedEarly ran
  obtain ⟨snapshot, -, heard, -⟩ :=
    notices 0 (.v4 .loopback 7001) (.commit 30) (by simp)
  exact ⟨_, _, ran, rfl, rfl, snapshot, heard⟩

end ArithmeticCloud.Joining
