import ArithmeticCloud.Concurrency.Actor
import Mathlib.Data.List.Basic

/-!
Contract: what an actor makes of its messages, whenever it gets its turns.

Owns:
- `Serving`, an actor that goes on, and the state that it has once it has handled what is
  in its mailbox;
- turns keep that state, a message changes it as its handler does, and the answer to a
  question is that of the handler to the state before.

Does not own: actors that are told to stop or are no longer referenced.
-/

namespace ArithmeticCloud.Concurrency

variable {σ μ ρ : Type}

namespace Behavior

variable (behavior : Behavior σ μ ρ)

/-- The state after messages, each with its ticket. -/
def stateAfter (state : σ) (messages : List (Nat × μ)) : σ :=
  messages.foldl (fun state entry => (behavior.handle state entry.2).1) state

/-- The state with which an actor in a phase handles its next message. -/
def begun (phase : Phase) (state : σ) : σ :=
  if phase = .created then behavior.start state else state

/-- What is put into the reply slots of messages. -/
def repliesTo : σ → List (Nat × μ) → List (Nat × Option ρ)
  | _, [] => []
  | state, (ticket, content) :: rest =>
      (ticket, (behavior.handle state content).2) ::
        repliesTo (behavior.handle state content).1 rest

theorem repliesTo_append (state : σ) (messages others : List (Nat × μ)) :
    behavior.repliesTo state (messages ++ others) =
      behavior.repliesTo state messages ++
        behavior.repliesTo (behavior.stateAfter state messages) others := by
  induction messages generalizing state with
  | nil => rfl
  | cons entry rest inductionHypothesis =>
      rw [List.cons_append, repliesTo, inductionHypothesis]
      rfl

theorem map_fst_repliesTo (state : σ) (messages : List (Nat × μ)) :
    (behavior.repliesTo state messages).map Prod.fst = messages.map Prod.fst := by
  induction messages generalizing state with
  | nil => rfl
  | cons entry rest inductionHypothesis =>
      rw [repliesTo, List.map_cons, List.map_cons, inductionHypothesis]

end Behavior

namespace Actor

variable {behavior : Behavior σ μ ρ} {actor : Actor σ μ ρ}

/-! ## Settling -/

theorem settle_of_step {next : Actor σ μ ρ} (stepped : actor.step? behavior = some next) :
    actor.settle behavior = next.settle behavior := by
  rw [settle]
  split
  · next other same =>
      rw [stepped] at same
      rw [Option.some.inj same]
  · next same =>
      rw [stepped] at same
      cases same

theorem settle_of_waiting (waiting : actor.step? behavior = none) :
    actor.settle behavior = actor := by
  rw [settle]
  split
  · next other same =>
      rw [waiting] at same
      cases same
  · rfl

theorem send_eq (goesOn : actor.phase ≠ .exited) (content : μ) :
    actor.send content = (some actor.issued, { actor with
      mailbox := actor.mailbox ++ [.message actor.issued content]
      issued := actor.issued + 1 }) :=
  if_neg goesOn

/-- An entry of a mailbox with a message. -/
def envelope (entry : Nat × μ) : Envelope μ := .message entry.1 entry.2

/-- A running actor handles every message and waits for more. -/
theorem settle_running {state : σ} {messages : List (Nat × μ)} {issued : Nat}
    {replies : List (Nat × Option ρ)} :
    settle behavior ⟨state, .running, messages.map envelope, true, issued, replies⟩ =
      ⟨behavior.stateAfter state messages, .running, [], true, issued,
        replies ++ behavior.repliesTo state messages⟩ := by
  induction messages generalizing state replies with
  | nil =>
      rw [settle_of_waiting rfl, Behavior.repliesTo, List.append_nil]
      rfl
  | cons entry rest inductionHypothesis =>
      rw [List.map_cons, settle_of_step rfl]
      dsimp only [envelope]
      rw [inductionHypothesis, List.append_assoc]
      rfl

/-- An actor that goes on handles what is in its mailbox. -/
theorem settle_eq {state : σ} {phase : Phase} (goesOn : phase ≠ .exited)
    {messages : List (Nat × μ)} {issued : Nat} {replies : List (Nat × Option ρ)} :
    settle behavior ⟨state, phase, messages.map envelope, true, issued, replies⟩ =
      ⟨behavior.stateAfter (behavior.begun phase state) messages, .running, [], true, issued,
        replies ++ behavior.repliesTo (behavior.begun phase state) messages⟩ := by
  cases phase with
  | exited => exact absurd rfl goesOn
  | created => exact (settle_of_step rfl).trans settle_running
  | running => exact settle_running

/-! ## Actors that go on -/

/-- The actor goes on, and has this state once it has handled what is in its mailbox.
Every ticket in its mailbox and in its reply slots has been issued. -/
structure Serving (behavior : Behavior σ μ ρ) (actor : Actor σ μ ρ) (state : σ) : Prop where
  goesOn : actor.phase ≠ .exited
  referenced : actor.referenced = true
  mailbox : ∃ messages : List (Nat × μ), actor.mailbox = messages.map envelope ∧
    behavior.stateAfter (behavior.begun actor.phase actor.state) messages = state ∧
    ∀ entry ∈ messages, entry.1 < actor.issued
  replied : ∀ entry ∈ actor.replies, entry.1 < actor.issued

namespace Serving

theorem create (state : σ) :
    Serving behavior (Actor.create state : Actor σ μ ρ) (behavior.start state) :=
  ⟨by simp [Actor.create], rfl, ⟨[], rfl, rfl, by simp⟩, by simp [Actor.create]⟩

variable {state : σ} (serving : Serving behavior actor state)
include serving

/-- A turn changes nothing about the state that the actor will have. -/
theorem step {next : Actor σ μ ρ} (stepped : actor.step? behavior = some next) :
    Serving behavior next state := by
  obtain ⟨goesOn, referenced, ⟨messages, mailbox, settled, issued⟩, replied⟩ := serving
  rcases actor with ⟨current, phase, entries, isReferenced, count, replies⟩
  dsimp only at *
  subst entries isReferenced
  cases phase with
  | exited => exact absurd rfl goesOn
  | created =>
      obtain rfl := Option.some.inj stepped
      exact ⟨by simp, rfl, ⟨messages, rfl, settled, issued⟩, replied⟩
  | running =>
      cases messages with
      | nil => cases stepped
      | cons entry rest =>
          obtain rfl := Option.some.inj stepped
          rw [List.forall_mem_cons] at issued
          refine ⟨by simp, rfl, ⟨rest, rfl, settled, issued.2⟩, ?_⟩
          rw [List.forall_mem_append]
          exact ⟨replied, by simpa using issued.1⟩

theorem settle : Serving behavior (actor.settle behavior) state := by
  fun_induction Actor.settle behavior actor with
  | case1 actor next stepped inductionHypothesis =>
      exact inductionHypothesis (serving.step stepped)
  | case2 actor waiting => exact serving

theorem state_settle : (actor.settle behavior).state = state := by
  obtain ⟨goesOn, referenced, ⟨messages, mailbox, settled, -⟩, -⟩ := serving
  rcases actor with ⟨current, phase, entries, isReferenced, issued, replies⟩
  dsimp only at *
  subst entries isReferenced
  rw [settle_eq goesOn]
  exact settled

theorem send (content : μ) :
    Serving behavior (actor.send content).2 (behavior.handle state content).1 := by
  obtain ⟨goesOn, referenced, ⟨messages, mailbox, settled, issued⟩, replied⟩ := serving
  rw [send_eq goesOn]
  refine ⟨goesOn, referenced, ⟨messages ++ [(actor.issued, content)], ?_, ?_, ?_⟩, ?_⟩
  · rw [mailbox, List.map_append]
    rfl
  · rw [Behavior.stateAfter, List.foldl_append]
    exact congrArg (fun state => (behavior.handle state content).1) settled
  · rw [List.forall_mem_append]
    exact ⟨fun entry member => Nat.lt_succ_of_lt (issued entry member), by simp⟩
  · exact fun entry member => Nat.lt_succ_of_lt (replied entry member)

/-- The answer to a question is that of the handler, after everything that was sent
before. -/
theorem ask (content : μ) :
    (actor.ask behavior content).1 = (behavior.handle state content).2 ∧
      Serving behavior (actor.ask behavior content).2 (behavior.handle state content).1 := by
  have settling := (serving.send content).settle
  obtain ⟨goesOn, referenced, ⟨messages, mailbox, rfl, issued⟩, replied⟩ := serving
  rcases actor with ⟨current, phase, entries, isReferenced, count, replies⟩
  dsimp only at *
  subst entries isReferenced
  -- The slots in front are those of tickets that were issued earlier.
  have unanswered {slots : List (Nat × Option ρ)} (earlier : ∀ entry ∈ slots, entry.1 < count) :
      slots.lookup count = none := by
    rw [List.lookup_eq_none_iff]
    intro entry member
    simpa using Nat.ne_of_gt (earlier entry member)
  have handled : ∀ entry ∈ behavior.repliesTo (behavior.begun phase current) messages,
      entry.1 < count := by
    rw [← List.forall_mem_map (f := Prod.fst) (P := (· < count)),
      Behavior.map_fst_repliesTo, List.forall_mem_map]
    exact issued
  have entries : messages.map envelope ++ [.message count content] =
      (messages ++ [(count, content)]).map envelope := by
    rw [List.map_append]
    rfl
  unfold Actor.ask
  rw [send_eq goesOn] at settling ⊢
  refine ⟨?_, settling⟩
  dsimp only
  rw [entries, settle_eq goesOn, reply?, Behavior.repliesTo_append, List.lookup_append,
    List.lookup_append, unanswered replied, unanswered handled]
  simp [Behavior.repliesTo]

end Serving

end Actor

end ArithmeticCloud.Concurrency
