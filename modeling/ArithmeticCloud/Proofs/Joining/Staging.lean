import ArithmeticCloud.Proofs.Joining.Tasks

/-!
Contract: which levels a node can come to hold committed while it joins.

Owns:
- `Overrides`, the one course of events in which a share that the node does not accept is
  committed: the node stages it for its own round, and a commit of another round comes before
  anything else replaces what is staged;
- that the committed level is never less than the minimum otherwise.

Does not own: which other rounds a node has to do with.
-/

namespace ArithmeticCloud.Joining

open Network Node Wire

/-- A level that a node may hold committed: none before its first share, or a share that it
accepts. -/
def Acceptable (minimum level : UInt64) : Prop := level = 0 ∨ minimum ≤ level

instance (minimum level : UInt64) : Decidable (Acceptable minimum level) :=
  inferInstanceAs (Decidable (level = 0 ∨ minimum ≤ level))

/-- Whether an event leaves the staged share as it is. -/
def AgentEvent.KeepsStaged (minimum : UInt64) : AgentEvent → Prop
  | .decide | .publish | .request .rollback => False
  | .request (.share value) => ¬ minimum ≤ value
  | _ => True

/-- What the node staged when it decided is still staged: the share that its snapshot implies. -/
def StagedSince (minimum : UInt64) (events : List AgentEvent) (snapshot : Snapshot) : Prop :=
  ∃ before between, events = before ++ .decide :: between ∧ .snapshot snapshot ∈ before ∧
    ∀ event ∈ between, event.KeepsStaged minimum

/-- The commit of another round comes while the node's own proposal is staged. -/
def Overrides (minimum : UInt64) (events : List AgentEvent) (snapshot : Snapshot) : Prop :=
  ∃ before value after, StagedSince minimum before snapshot ∧
    events = before ++ .request (.commit value) :: after

/-- A level that is acceptable, or was committed in the course of another round. -/
def Explained (minimum : UInt64) (events : List AgentEvent) (level : UInt64) : Prop :=
  Acceptable minimum level ∨
    ∃ snapshot, Overrides minimum events snapshot ∧ level = snapshot.proposedShare

section Histories

variable {minimum : UInt64} {events : List AgentEvent} {event : AgentEvent} {snapshot : Snapshot}
  {level : UInt64}

theorem Overrides.append (overrides : Overrides minimum events snapshot)
    (later : List AgentEvent) : Overrides minimum (events ++ later) snapshot := by
  obtain ⟨before, value, after, staged, rfl⟩ := overrides
  exact ⟨before, value, after ++ later, staged, by simp⟩

theorem Explained.concat (explained : Explained minimum events level) (event : AgentEvent) :
    Explained minimum (events ++ [event]) level := by
  refine explained.imp_right ?_
  rintro ⟨snapshot, overrides, rfl⟩
  exact ⟨snapshot, overrides.append [event], rfl⟩

theorem StagedSince.concat (staged : StagedSince minimum events snapshot)
    (keeps : event.KeepsStaged minimum) : StagedSince minimum (events ++ [event]) snapshot := by
  obtain ⟨before, between, rfl, adopted, kept⟩ := staged
  refine ⟨before, between ++ [event], by simp, adopted, fun other member => ?_⟩
  rcases List.mem_append.mp member with earlier | last
  · exact kept other earlier
  · exact List.mem_singleton.mp last ▸ keeps

end Histories

/-! ## What a step does to the levels -/

/-- Every level of a node is explained, unless it is what the node has staged for its own
round. -/
structure Backed (minimum : UInt64) (events : List AgentEvent) (levels : Levels) : Prop where
  committed : Explained minimum events levels.committed
  proposed : Explained minimum events levels.proposed ∨
    ∃ snapshot, StagedSince minimum events snapshot ∧ levels.proposed = snapshot.proposedShare

namespace Backed

variable {minimum : UInt64} {events : List AgentEvent} {levels : Levels}

theorem initial (minimum : UInt64) : Backed minimum [] (.initial minimum) :=
  ⟨.inl (.inl rfl), .inl (.inl (.inl rfl))⟩

theorem concat (backed : Backed minimum events levels) {event : AgentEvent}
    (keeps : event.KeepsStaged minimum) : Backed minimum (events ++ [event]) levels where
  committed := backed.committed.concat event
  proposed := by
    refine backed.proposed.imp (·.concat event) ?_
    rintro ⟨snapshot, staged, same⟩
    exact ⟨snapshot, staged.concat keeps, same⟩

/-- A share that the node accepts takes the place of what is staged. -/
theorem stage (backed : Backed minimum events levels) {value : UInt64} (accepted : minimum ≤ value)
    (event : AgentEvent) : Backed minimum (events ++ [event]) (levels.stage value) :=
  ⟨backed.committed.concat event, .inl (.inl (.inr accepted))⟩

theorem rollback (backed : Backed minimum events levels) (event : AgentEvent) :
    Backed minimum (events ++ [event]) levels.rollback :=
  ⟨backed.committed.concat event, .inl (backed.committed.concat event)⟩

/-- The commit of another round, which may promote what the node has staged for its own. -/
theorem commit (backed : Backed minimum events levels) (value : UInt64) :
    Backed minimum (events ++ [.request (.commit value)]) levels.commit := by
  have promoted : Explained minimum (events ++ [.request (.commit value)]) levels.proposed := by
    rcases backed.proposed with explained | ⟨snapshot, staged, same⟩
    · exact explained.concat _
    · exact .inr ⟨snapshot, ⟨events, value, [], staged, rfl⟩, same⟩
  exact ⟨promoted, .inl promoted⟩

theorem request (backed : Backed minimum events levels) (least : levels.minimum = minimum)
    (request : NodeRequest) :
    Backed minimum (events ++ [.request request]) (levels.handle request) := by
  cases request with
  | share value =>
      by_cases accepted : levels.minimum ≤ value
      · rw [Levels.handle_share_of_le accepted]
        exact backed.stage (least ▸ accepted) _
      · rw [Levels.handle_share_of_not_le accepted]
        exact backed.concat fun small => accepted (least ▸ small)
  | commit value => exact backed.commit value
  | rollback => exact backed.rollback _
  | compute left operator right => exact backed.concat trivial
  | getLogs => exact backed.concat trivial

/-- The end of the node's own round. If the node agrees then it accepts its own proposal. -/
theorem publish (backed : Backed minimum events levels) {snapshot : Snapshot} {agreed : Bool}
    (adopted : Adopted minimum events snapshot agreed) :
    Backed minimum (events ++ [.publish]) ((JoinRound.over snapshot agreed).settle levels).2 := by
  cases agreed with
  | false => exact backed.rollback .publish
  | true =>
      -- What is staged for the own round is the share of the one snapshot that was adopted.
      have promoted : Explained minimum (events ++ [.publish]) levels.proposed := by
        rcases backed.proposed with explained | ⟨other, ⟨before, between, rfl, member, -⟩, same⟩
        · exact explained.concat _
        · obtain rfl := adopted.only other (List.mem_append_left _ member)
          rw [same]
          exact .inl (.inr (adopted.agrees.mp rfl).1)
      exact ⟨promoted, .inl promoted⟩

theorem step {agent next : Agent} {attempts now : List Attempt} {event : AgentEvent}
    (backed : Backed minimum events agent.levels)
    (tracks : Tracks minimum events agent attempts)
    (turn : Agent.Turn agent event next now) :
    Backed minimum (events ++ [event]) next.levels := by
  obtain ⟨-, least, course⟩ := tracks
  cases turn with
  | request agent request => exact backed.request least request
  | decide round levels state stopping =>
      cases course with
      | @sharing snapshot agreed unanswered adopted heard =>
          refine ⟨backed.committed.concat .decide, .inr ⟨snapshot, ?_, rfl⟩⟩
          exact ⟨events, [], rfl, adopted.adopted, nofun⟩
  | publish round levels state stopping =>
      cases course with
      | notifying unsent adopted heard => exact backed.publish adopted
  | _ => exact backed.concat trivial

theorem run {agent final : Agent} {attempts later : List Attempt} {others : List AgentEvent}
    (backed : Backed minimum events agent.levels)
    (tracks : Tracks minimum events agent attempts)
    (ran : agent.run? others = some (final, later)) :
    Backed minimum (events ++ others) final.levels := by
  induction others generalizing events agent attempts later with
  | nil =>
      cases ran
      rwa [List.append_nil]
  | cons event others inductionHypothesis =>
      obtain ⟨next, now, after, stepped, ranOthers, -⟩ := Agent.step?_of_run?_cons ran
      have turn := Agent.turn_of_step? stepped
      rw [List.append_cons]
      exact inductionHypothesis (backed.step tracks turn) (tracks.step turn) ranOthers

end Backed

/-! ## What stays staged -/

section Runs

variable {minimum : UInt64} {events : List AgentEvent} {agent next final : Agent}
  {attempts now later : List Attempt}

theorem proposed_step {event : AgentEvent} (keeps : event.KeepsStaged agent.levels.minimum)
    (turn : Agent.Turn agent event next now) :
    next.levels.proposed = agent.levels.proposed ∧
      next.levels.minimum = agent.levels.minimum := by
  cases turn with
  | request agent request =>
      refine ⟨?_, agent.levels.minimum_handle request⟩
      cases request with
      | share value => exact congrArg Levels.proposed (Levels.handle_share_of_not_le keeps)
      | rollback => exact keeps.elim
      | _ => rfl
  | decide => exact keeps.elim
  | publish => exact keeps.elim
  | _ => exact ⟨rfl, rfl⟩

theorem proposed_run {others : List AgentEvent}
    (keeps : ∀ event ∈ others, event.KeepsStaged agent.levels.minimum)
    (ran : agent.run? others = some (final, later)) :
    final.levels.proposed = agent.levels.proposed := by
  induction others generalizing agent later with
  | nil =>
      cases ran
      rfl
  | cons event others inductionHypothesis =>
      obtain ⟨next, now, after, stepped, ranOthers, -⟩ := Agent.step?_of_run?_cons ran
      obtain ⟨first, keepsOthers⟩ := List.forall_mem_cons.mp keeps
      obtain ⟨kept, least⟩ := proposed_step first (Agent.turn_of_step? stepped)
      rw [← least] at keepsOthers
      exact (inductionHypothesis keepsOthers ranOthers).trans kept

/-- What is staged since the node decided is the share that its snapshot implies. -/
theorem proposed_of_stagedSince {snapshot : Snapshot}
    (ran : (Agent.start minimum).run? events = some (agent, attempts))
    (staged : StagedSince minimum events snapshot) :
    agent.levels.proposed = snapshot.proposedShare := by
  obtain ⟨before, between, rfl, member, kept⟩ := staged
  obtain ⟨sharing, earlier, others, first, second⟩ := Agent.exists_of_run?_append ran
  obtain ⟨decided, now, after, stepped, ranBetween, -⟩ := Agent.step?_of_run?_cons second
  have tracks := Tracks.of_run first
  have turn := Agent.turn_of_step? stepped
  rw [← tracks.least_step turn] at kept
  rw [proposed_run kept ranBetween]
  obtain ⟨-, -, course⟩ := tracks
  cases turn with
  | decide round levels state stopping =>
      cases course with
      | @sharing other agreed unanswered adopted heard =>
          obtain rfl := adopted.only snapshot member
          rfl

end Runs

/-- At any moment the level that a node holds committed is none, or a share that it accepts, or
what it had staged for its own round when another round's commit came. So it is never less than the
node accepts exactly if every proposal that such a commit promotes is not. -/
theorem committed_acceptable_iff (minimum : UInt64) (events : List AgentEvent) {agent : Agent}
    {attempts : List Attempt}
    (ran : (Agent.start minimum).run? events = some (agent, attempts)) :
    Explained minimum events agent.levels.committed ∧
    ((∀ before after, events = before ++ after → ∀ middle earlier,
        (Agent.start minimum).run? before = some (middle, earlier) →
          Acceptable minimum middle.levels.committed) ↔
      ∀ snapshot, Overrides minimum events snapshot →
        Acceptable minimum snapshot.proposedShare) := by
  have explained {past : List AgentEvent} {agent : Agent} {attempts : List Attempt}
      (ran : (Agent.start minimum).run? past = some (agent, attempts)) :
      Explained minimum past agent.levels.committed :=
    ((Backed.initial minimum).run (.start minimum) ran).committed
  refine ⟨explained ran, ?_, ?_⟩
  · rintro always snapshot ⟨before, value, after, staged, rfl⟩
    obtain ⟨middle, earlier, later, first, second⟩ := Agent.exists_of_run?_append ran
    have promoted : (Agent.start minimum).run? (before ++ [.request (.commit value)]) =
        some ({ middle with levels := middle.levels.commit }, earlier ++ []) := by
      rw [Agent.run?_append first]
      rfl
    have acceptable := always _ after (List.append_cons ..) _ _ promoted
    rwa [← proposed_of_stagedSince first staged]
  · rintro harmless before after rfl middle earlier first
    rcases explained first with acceptable | ⟨snapshot, overrides, same⟩
    · exact acceptable
    · rw [same]
      exact harmless snapshot (overrides.append after)

/-- Alone in its own round, a node has accepted the share of another, and hears of that one's
commit when it has staged its own. -/
def promoting : List AgentEvent :=
  [.snapshot ⟨[], 50⟩, .request (.share 120), .decide, .request (.commit 120)]

theorem run?_promoting :
    (Agent.start 100).run? promoting =
      some (⟨.notifying ⟨[], 50, false⟩ [], ⟨50, 50, 100⟩, .pending, false⟩, []) := by
  decide +kernel

theorem committed_acceptable_iff_promoting :
    ∃ agent attempts, (Agent.start 100).run? promoting = some (agent, attempts) ∧
      agent.levels.committed = 50 ∧
      ∃ snapshot, Overrides 100 promoting snapshot ∧ snapshot.proposedShare = 50 := by
  obtain ⟨explained, -⟩ := committed_acceptable_iff 100 promoting run?_promoting
  refine ⟨_, _, run?_promoting, rfl, ?_⟩
  rcases explained with acceptable | ⟨snapshot, overrides, same⟩
  · exact absurd acceptable (by decide)
  · exact ⟨snapshot, overrides, same.symm⟩

/-- A node comes to hold committed a share that it does not accept. -/
theorem refused_share_promoting :
    ∃ agent attempts, (Agent.start 100).run? promoting = some (agent, attempts) ∧
      ¬ Acceptable 100 agent.levels.committed :=
  ⟨_, _, run?_promoting, by decide⟩

end ArithmeticCloud.Joining
