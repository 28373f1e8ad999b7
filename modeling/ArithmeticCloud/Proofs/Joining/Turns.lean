import ArithmeticCloud.Joining.Agent
import ArithmeticCloud.Proofs.Joining.Rounds
import Mathlib.Data.List.Basic

/-!
Contract: a round that asks and tells peers in turn is one run of the joiner's task.

Owns:
- how a run starts, and where it can be split;
- the answers that a contact gives in turn, and the events that they make;
- the run of the task through these events, which ends where the round does.

Does not own: other orders of the same events.
-/

namespace ArithmeticCloud.Joining

open Network Node Wire

variable {σ : Type}

/-- What peers answer to a share, asked in turn. -/
def answersWith (contact : Contact σ) (value : UInt64) :
    List Endpoint → σ → List (Except Fault Vote)
  | [], _ => []
  | peer :: others, state =>
      let (answer, state) := contact.share state peer value
      answer :: answersWith contact value others state

theorem length_answersWith (contact : Contact σ) (value : UInt64) (peers : List Endpoint)
    (state : σ) : (answersWith contact value peers state).length = peers.length := by
  induction peers generalizing state with
  | nil => rfl
  | cons peer others inductionHypothesis =>
      rw [answersWith, List.length_cons, List.length_cons, inductionHypothesis]

/-- Share exchanges that end one after the other, from a position on. -/
def shareEvents : Nat → List (Except Fault Vote) → List AgentEvent
  | _, [] => []
  | position, answer :: others =>
      .shareEnded position answer :: shareEvents (position + 1) others

/-- A round in turn. -/
def turns (answers : List (Except Fault Vote)) : List AgentEvent :=
  shareEvents 0 answers ++ .decide ::
    ((List.range answers.length).map .noticeEnded ++ [.publish])

def JoinOutcome.isCommitted : JoinOutcome → Bool
  | .committed _ => true
  | .rolledBack _ => false

/-- What a node shows after an outcome. -/
def JoinOutcome.shown : JoinOutcome → JoinState
  | .committed share => .joined share
  | .rolledBack _ => .rejected

namespace Agent

variable {agent middle : Agent} {attempts : List Attempt}

/-- A run starts with a step of the task. -/
theorem step?_of_run?_cons {final : Agent} {event : AgentEvent} {others : List AgentEvent}
    (ran : agent.run? (event :: others) = some (final, attempts)) :
    ∃ next now later, agent.step? event = some (next, now) ∧
      next.run? others = some (final, later) ∧ attempts = now ++ later := by
  obtain ⟨⟨next, now⟩, stepped, rest⟩ := Option.bind_eq_some_iff.mp ran
  obtain ⟨⟨last, later⟩, ranOthers, same⟩ := Option.bind_eq_some_iff.mp rest
  cases same
  exact ⟨next, now, later, stepped, ranOthers, rfl⟩

theorem run?_append {first : List AgentEvent} (ran : agent.run? first = some (middle, attempts))
    (second : List AgentEvent) :
    agent.run? (first ++ second) =
      (middle.run? second).map fun (final, later) => (final, attempts ++ later) := by
  induction first generalizing agent attempts with
  | nil =>
      rcases Prod.mk.inj (Option.some.inj ran) with ⟨rfl, rfl⟩
      simp
  | cons event others inductionHypothesis =>
      obtain ⟨next, now, later, stepped, ranOthers, rfl⟩ := step?_of_run?_cons ran
      simp only [List.cons_append, run?, stepped, Option.bind_eq_bind, Option.bind_some,
        inductionHypothesis ranOthers]
      cases middle.run? second <;> simp

theorem exists_of_run?_append {final : Agent} {before after : List AgentEvent}
    (ran : agent.run? (before ++ after) = some (final, attempts)) :
    ∃ middle earlier later, agent.run? before = some (middle, earlier) ∧
      middle.run? after = some (final, later) := by
  induction before generalizing agent attempts with
  | nil => exact ⟨agent, [], attempts, rfl, ran⟩
  | cons event others inductionHypothesis =>
      obtain ⟨next, now, rest, stepped, ranOthers, -⟩ := step?_of_run?_cons ran
      obtain ⟨middle, earlier, later, first, second⟩ := inductionHypothesis ranOthers
      exact ⟨middle, now ++ earlier, later, by simp [run?, stepped, first], second⟩

theorem run?_shareEvents (contact : Contact σ) (levels : Levels) (shown : JoinState)
    (stopping : Bool) (peers : List Endpoint) (round : JoinRound) (state : σ) (position : Nat) :
    run? ⟨.sharing round (List.range' position peers.length), levels, shown, stopping⟩
      (shareEvents position (answersWith contact round.proposed peers state)) =
        some (⟨.sharing (JoinRound.shareWith contact peers round state).1 [], levels, shown,
          stopping⟩, []) := by
  induction peers generalizing round state position with
  | nil => rfl
  | cons peer others inductionHypothesis =>
      simp only [answersWith, shareEvents, List.length_cons, List.range'_succ, run?, step?,
        List.mem_cons, true_or, if_true, List.erase_cons_head, Option.bind_eq_bind,
        Option.bind_some, List.nil_append, JoinRound.shareWith]
      have rest := inductionHypothesis (round.hear (contact.share state peer round.proposed).1)
        (contact.share state peer round.proposed).2 (position + 1)
      simp only [JoinRound.hear] at rest ⊢
      rw [rest]
      rfl

theorem run?_noticeEnded (round : JoinRound) (levels : Levels) (shown : JoinState)
    (stopping : Bool) (positions : List Nat) :
    run? ⟨.notifying round positions, levels, shown, stopping⟩ (positions.map .noticeEnded) =
      some (⟨.notifying round [], levels, shown, stopping⟩, []) := by
  induction positions with
  | nil => rfl
  | cons position others inductionHypothesis =>
      simp only [List.map_cons, run?, step?, List.mem_cons, true_or, if_true,
        List.erase_cons_head, Option.bind_eq_bind, Option.bind_some, inductionHypothesis]
      rfl

theorem run?_publish (round : JoinRound) (levels : Levels) (shown : JoinState) (stopping : Bool) :
    run? ⟨.notifying round [], levels, shown, stopping⟩ [.publish] =
      some (⟨.published (round.settle levels).1.isCommitted, (round.settle levels).2,
        (round.settle levels).1.shown, stopping⟩, []) := by
  simp only [run?, step?]
  cases settled : round.settle levels with
  | mk outcome after =>
      cases outcome <;> rfl

/-- A round in turn is a run of the task, and both come to the same outcome. -/
theorem run?_turns (contact : Contact σ) (round : JoinRound) (levels : Levels) (state : σ)
    (shown : JoinState) (stopping : Bool) :
    run? ⟨.sharing round (List.range round.peers.length), levels, shown, stopping⟩
      (turns (answersWith contact round.proposed round.peers state)) =
        some (⟨.published (round.run contact levels state).1.isCommitted,
          (round.run contact levels state).2.1, (round.run contact levels state).1.shown, stopping⟩,
          noticeAttempts (JoinRound.shareWith contact round.peers round state).1) := by
  have shared := run?_shareEvents contact levels shown stopping round.peers round state 0
  have peers := JoinRound.peers_shareWith contact round.peers round state
  have proposed := JoinRound.proposed_shareWith contact round.peers round state
  rw [← List.range_eq_range'] at shared
  simp only [JoinRound.run]
  generalize JoinRound.shareWith contact round.peers round state = result at *
  rcases result with ⟨decided, after⟩
  dsimp only at peers shared ⊢
  have opened : step? ⟨.sharing decided [], levels, shown, stopping⟩ .decide =
      some (⟨.notifying decided (List.range decided.peers.length), levels.stage decided.proposed,
        shown, stopping⟩, noticeAttempts decided) := rfl
  have noticed := run?_noticeEnded decided (levels.stage decided.proposed) shown stopping
    (List.range decided.peers.length)
  have settled := run?_publish decided (levels.stage decided.proposed) shown stopping
  rw [turns, length_answersWith, run?_append shared, run?, opened, ← peers]
  simp only [Option.bind_eq_bind, Option.bind_some, run?_append noticed, settled]
  simp

end Agent

end ArithmeticCloud.Joining
