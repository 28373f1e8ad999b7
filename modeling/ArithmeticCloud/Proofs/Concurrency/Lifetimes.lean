import ArithmeticCloud.Proofs.Concurrency.Actors
import Mathlib.Data.List.TakeWhile

/-!
Contract: the whole life of an actor, from its start handler to its stop handler.

Owns:
- `Shared.step?`, what can happen to an actor that any number of senders hold references
  to: messages, signals, references that come and go, and turns, in any order;
- which messages an actor handles: those that were enqueued before the first signal, in
  order of arrival;
- when it stops, and what becomes of a question that it does not answer.

Does not own: when an actor gets its turns.
-/

namespace ArithmeticCloud.Concurrency

variable {σ μ ρ : Type}

/-! ## What happens to an actor -/

/-- Whoever sends holds a reference. Which one it is makes no difference to the mailbox. -/
inductive ActorEvent (μ : Type) where
  | send (content : μ)
  | term
  | clone
  | drop
  | turn
deriving DecidableEq, Repr

namespace ActorEvent

def isTerm : ActorEvent μ → Bool
  | .term => true
  | _ => false

def content? : ActorEvent μ → Option μ
  | .send content => some content
  | _ => none

end ActorEvent

/-- Whether a signal to stop is among the events. -/
def isTold (events : List (ActorEvent μ)) : Bool := events.any ActorEvent.isTerm

/-- The messages that are enqueued before the first signal, each with its ticket. -/
def timely (events : List (ActorEvent μ)) : List (Nat × μ) :=
  ((events.takeWhile fun event => !event.isTerm).filterMap ActorEvent.content?).mapIdx Prod.mk

/-- The messages that count after one more event. -/
def extended (mail : List (Nat × μ)) (told : Bool) (event : ActorEvent μ) : List (Nat × μ) :=
  if told then mail else mail ++ event.content?.toList.map (mail.length, ·)

theorem isTold_concat (events : List (ActorEvent μ)) (event : ActorEvent μ) :
    isTold (events ++ [event]) = (isTold events || event.isTerm) := by
  simp [isTold]

theorem isTold_eq_false_iff {events : List (ActorEvent μ)} :
    isTold events = false ↔ ∀ event ∈ events, (!event.isTerm) = true := by
  simp [isTold]

/-- After a signal nothing counts. -/
theorem timely_append_of_told {earlier : List (ActorEvent μ)} (told : isTold earlier = true)
    (later : List (ActorEvent μ)) : timely (earlier ++ later) = timely earlier := by
  have short : (earlier.takeWhile fun event => !event.isTerm).length ≠ earlier.length := by
    intro same
    have all := (List.takeWhile_prefix _).eq_of_length same
    rw [List.takeWhile_eq_self_iff, ← isTold_eq_false_iff, told] at all
    cases all
  rw [timely, List.takeWhile_append, if_neg short]
  rfl

/-- Before a signal all messages count, and tickets go on where they were. -/
theorem timely_append_of_untold {earlier : List (ActorEvent μ)} (untold : isTold earlier = false)
    (later : List (ActorEvent μ)) :
    timely (earlier ++ later) = timely earlier ++
      ((later.takeWhile fun event => !event.isTerm).filterMap ActorEvent.content?).mapIdx
        fun position => Prod.mk (position + (timely earlier).length) := by
  have all := isTold_eq_false_iff.mp untold
  have same : timely earlier = (earlier.filterMap ActorEvent.content?).mapIdx Prod.mk := by
    rw [timely, List.takeWhile_eq_self_iff.mpr all]
  rw [timely, List.takeWhile_append_of_pos all, List.filterMap_append, List.mapIdx_append, same,
    List.length_mapIdx]

/-- A question that comes before a signal has the next ticket. -/
theorem timely_append_send {earlier : List (ActorEvent μ)} (untold : isTold earlier = false)
    (content : μ) (later : List (ActorEvent μ)) :
    ∃ rest, timely (earlier ++ .send content :: later) =
      timely earlier ++ ((timely earlier).length, content) :: rest := by
  have sent : (.send content :: later.takeWhile fun event => !event.isTerm).filterMap
      ActorEvent.content? =
        content :: (later.takeWhile fun event => !event.isTerm).filterMap ActorEvent.content? := rfl
  rw [timely_append_of_untold untold, List.takeWhile_cons_of_pos rfl, sent, List.mapIdx_cons,
    Nat.zero_add]
  exact ⟨_, rfl⟩

theorem timely_concat (events : List (ActorEvent μ)) (event : ActorEvent μ) :
    timely (events ++ [event]) = extended (timely events) (isTold events) event := by
  cases told : isTold events with
  | true => exact timely_append_of_told told [event]
  | false =>
      rw [timely_append_of_untold told, extended]
      cases event <;> simp [ActorEvent.isTerm, ActorEvent.content?]

theorem lt_length_of_mem_timely {events : List (ActorEvent μ)} {entry : Nat × μ}
    (member : entry ∈ timely events) : entry.1 < (timely events).length := by
  obtain ⟨position, inside, rfl⟩ := List.mem_mapIdx.mp member
  rwa [timely, List.length_mapIdx]

/-- An actor and the number of references to it. -/
structure Shared (σ μ ρ : Type) where
  actor : Actor σ μ ρ
  references : Nat

namespace Shared

/-- An actor that has not had its first turn, and the reference to it. -/
def start (state : σ) : Shared σ μ ρ := ⟨.create state, 1⟩

/-- What comes of an event. Nothing is sent without a reference, and an actor that waits
has no turn. -/
def step? (behavior : Behavior σ μ ρ) (shared : Shared σ μ ρ) (event : ActorEvent μ) :
    Option (Shared σ μ ρ) :=
  match event, shared.references with
  | .turn, count => (shared.actor.step? behavior).map (⟨·, count⟩)
  | _, 0 => none
  | .send content, count => some ⟨(shared.actor.send content).2, count⟩
  | .term, count => some ⟨shared.actor.terminate.2, count⟩
  | .clone, count => some ⟨shared.actor, count + 1⟩
  | .drop, 1 => some ⟨shared.actor.release, 0⟩
  | .drop, count + 1 => some ⟨shared.actor, count⟩

/-- Takes events in turn. Fails at an event that cannot happen. -/
def run? (behavior : Behavior σ μ ρ) (shared : Shared σ μ ρ) (events : List (ActorEvent μ)) :
    Option (Shared σ μ ρ) :=
  events.foldlM (step? behavior) shared

end Shared

namespace Shared

variable {behavior : Behavior σ μ ρ} {shared after : Shared σ μ ρ}

theorem run?_append (behavior : Behavior σ μ ρ) (shared : Shared σ μ ρ)
    (earlier later : List (ActorEvent μ)) :
    shared.run? behavior (earlier ++ later) =
      (shared.run? behavior earlier).bind (run? behavior · later) :=
  List.foldlM_append

/-- What can happen to an actor: a turn, or something that takes a reference. -/
theorem step?_cases {event : ActorEvent μ} (stepped : shared.step? behavior event = some after) :
    (∃ actor, event = .turn ∧ shared.actor.step? behavior = some actor ∧
      after = ⟨actor, shared.references⟩) ∨
    0 < shared.references ∧
      ((∃ content, event = .send content ∧
        after = ⟨(shared.actor.send content).2, shared.references⟩) ∨
      (event = .term ∧ after = ⟨shared.actor.terminate.2, shared.references⟩) ∨
      (event = .drop ∧ after = ⟨shared.actor.release, 0⟩) ∨
      ((event = .clone ∨ event = .drop) ∧ ∃ count, 0 < count ∧ after = ⟨shared.actor, count⟩)) := by
  obtain ⟨actor, references⟩ := shared
  cases event with
  | turn =>
      obtain ⟨next, turned, rfl⟩ := Option.map_eq_some_iff.mp stepped
      exact .inl ⟨next, rfl, turned, rfl⟩
  | send content =>
      cases references with
      | zero => cases stepped
      | succ count =>
          obtain rfl := Option.some.inj stepped
          exact .inr ⟨Nat.succ_pos count, .inl ⟨content, rfl, rfl⟩⟩
  | term =>
      cases references with
      | zero => cases stepped
      | succ count =>
          obtain rfl := Option.some.inj stepped
          exact .inr ⟨Nat.succ_pos count, .inr (.inl ⟨rfl, rfl⟩)⟩
  | clone =>
      cases references with
      | zero => cases stepped
      | succ count =>
          obtain rfl := Option.some.inj stepped
          exact .inr ⟨Nat.succ_pos count, .inr (.inr (.inr ⟨.inl rfl, _, Nat.succ_pos _, rfl⟩))⟩
  | drop =>
      match references with
      | 0 => cases stepped
      | 1 =>
          obtain rfl := Option.some.inj stepped
          exact .inr ⟨Nat.one_pos, .inr (.inr (.inl ⟨rfl, rfl⟩))⟩
      | count + 2 =>
          obtain rfl := Option.some.inj stepped
          exact .inr ⟨Nat.succ_pos _, .inr (.inr (.inr ⟨.inr rfl, _, Nat.succ_pos count, rfl⟩))⟩

/-- An actor that has exited stays as it is. -/
theorem exited_step (exited : shared.actor.phase = .exited) {event : ActorEvent μ}
    (stepped : shared.step? behavior event = some after) :
    after.actor.phase = .exited ∧ after.actor.state = shared.actor.state ∧
      after.actor.replies = shared.actor.replies := by
  rcases step?_cases stepped with
    ⟨actor, -, turned, -⟩ | ⟨-, ⟨content, -, rfl⟩ | ⟨-, rfl⟩ | ⟨-, rfl⟩ | ⟨-, count, -, rfl⟩⟩
  · simp [Actor.step?, exited] at turned
  · simp [Actor.send, exited]
  · simp [Actor.terminate, exited]
  · exact ⟨exited, rfl, rfl⟩
  · exact ⟨exited, rfl, rfl⟩

theorem exited_run (exited : shared.actor.phase = .exited) {events : List (ActorEvent μ)}
    (ran : shared.run? behavior events = some after) :
    after.actor.phase = .exited ∧ after.actor.state = shared.actor.state ∧
      after.actor.replies = shared.actor.replies := by
  induction events generalizing shared with
  | nil =>
      obtain rfl := Option.some.inj ran
      exact ⟨exited, rfl, rfl⟩
  | cons event others inductionHypothesis =>
      obtain ⟨next, stepped, rest⟩ := Option.bind_eq_some_iff.mp ran
      obtain ⟨still, state, replies⟩ := exited_step exited stepped
      obtain ⟨inTheEnd, stateToo, repliesToo⟩ := inductionHypothesis still rest
      exact ⟨inTheEnd, stateToo.trans state, repliesToo.trans replies⟩

theorem held_of_send {content : μ}
    (stepped : shared.step? behavior (.send content) = some after) : 0 < shared.references := by
  rcases step?_cases stepped with ⟨actor, turn, -⟩ | ⟨held, -⟩
  · cases turn
  · exact held

end Shared

/-! ## How far an actor has come -/

/-- A mailbox with messages, and behind them a signal and whatever came after it if the
actor has been told to stop. -/
def Holds (waiting : List (Nat × μ)) (told : Bool) (mailbox : List (Envelope μ)) : Prop :=
  ∃ behind, mailbox = waiting.map Actor.envelope ++ behind ∧
    if told then ∃ later, behind = .term :: later else behind = []

/-- A message that comes after the signal is left behind it. -/
theorem Holds.concat_message {mail handled waiting : List (Nat × μ)} {told : Bool}
    {mailbox : List (Envelope μ)} {ticket : Nat} (holds : Holds waiting told mailbox)
    (whole : mail = handled ++ waiting) (issued : told = false → ticket = mail.length)
    (content : μ) :
    ∃ others, extended mail told (.send content) = handled ++ others ∧
      Holds others told (mailbox ++ [.message ticket content]) := by
  obtain ⟨behind, rfl, shape⟩ := holds
  cases told with
  | true =>
      obtain ⟨later, rfl⟩ := shape
      exact ⟨waiting, whole, .term :: (later ++ [.message ticket content]), by simp,
        later ++ _, rfl⟩
  | false =>
      obtain rfl : behind = [] := shape
      obtain rfl := issued rfl
      refine ⟨waiting ++ [(mail.length, content)], ?_, [], by simp [Actor.envelope], rfl⟩
      rw [← List.append_assoc, ← whole]
      rfl

theorem Holds.concat_term {told : Bool} {mailbox : List (Envelope μ)}
    {waiting : List (Nat × μ)} (holds : Holds waiting told mailbox) :
    Holds waiting true (mailbox ++ [.term]) := by
  obtain ⟨behind, rfl, shape⟩ := holds
  cases told with
  | true =>
      obtain ⟨later, rfl⟩ := shape
      exact ⟨.term :: (later ++ [.term]), by simp, later ++ _, rfl⟩
  | false =>
      obtain rfl : behind = [] := shape
      exact ⟨[.term], by simp, [], rfl⟩

/-- How far an actor has come with the messages that count. -/
inductive Progress (behavior : Behavior σ μ ρ) (initial : σ) (mail : List (Nat × μ))
    (told : Bool) : Actor σ μ ρ → Prop where
  | created {mailbox : List (Envelope μ)} {referenced : Bool} {issued : Nat}
      (holds : Holds mail told mailbox) :
      Progress behavior initial mail told ⟨initial, .created, mailbox, referenced, issued, []⟩
  | running {handled waiting : List (Nat × μ)} {mailbox : List (Envelope μ)} {referenced : Bool}
      {issued : Nat} (whole : mail = handled ++ waiting) (holds : Holds waiting told mailbox) :
      Progress behavior initial mail told
        ⟨behavior.stateAfter (behavior.start initial) handled, .running, mailbox, referenced,
          issued, behavior.repliesTo (behavior.start initial) handled⟩
  | exited {referenced : Bool} {issued : Nat} (cause : told = true ∨ referenced = false) :
      Progress behavior initial mail told
        ⟨behavior.stop (behavior.stateAfter (behavior.start initial) mail), .exited, [],
          referenced, issued, behavior.repliesTo (behavior.start initial) mail⟩

/-- What holds of an actor with references to it. -/
structure Lives (behavior : Behavior σ μ ρ) (initial : σ) (mail : List (Nat × μ)) (told : Bool)
    (shared : Shared σ μ ρ) : Prop where
  progress : Progress behavior initial mail told shared.actor
  referenced : shared.actor.referenced = decide (0 < shared.references)
  issued : told = false → shared.actor.issued = mail.length
  enough : mail.length ≤ shared.actor.issued

namespace Lives

variable {behavior : Behavior σ μ ρ} {initial : σ} {mail : List (Nat × μ)} {told : Bool}
  {shared after : Shared σ μ ρ}

theorem start (behavior : Behavior σ μ ρ) (initial : σ) :
    Lives behavior initial (timely ([] : List (ActorEvent μ))) (isTold ([] : List (ActorEvent μ)))
      (Shared.start initial) :=
  ⟨.created ⟨[], rfl, rfl⟩, rfl, fun _ => rfl, Nat.zero_le _⟩

/-- A turn changes nothing about the messages that count. -/
theorem turn {actor next : Actor σ μ ρ} {references : Nat}
    (lives : Lives behavior initial mail told ⟨actor, references⟩)
    (stepped : actor.step? behavior = some next) :
    Lives behavior initial mail told ⟨next, references⟩ := by
  obtain ⟨progress, referenced, issued, enough⟩ := lives
  dsimp only at *
  cases progress with
  | created holds =>
      obtain rfl := Option.some.inj stepped
      exact ⟨@Progress.running _ _ _ _ _ _ _ [] mail _ _ _ rfl holds, referenced, issued, enough⟩
  | @running handled waiting mailbox isReferenced count whole holds =>
      obtain ⟨behind, rfl, shape⟩ := holds
      -- Messages come first; what is behind them decides only when none is left.
      cases waiting with
      | cons entry rest =>
          obtain rfl := Option.some.inj stepped
          refine ⟨?_, referenced, issued, enough⟩
          have progress : Progress behavior initial mail told
              ⟨_, .running, _, isReferenced, count, _⟩ :=
            .running (whole.trans (List.append_cons handled entry rest)) ⟨behind, rfl, shape⟩
          rw [Behavior.repliesTo_append, Behavior.stateAfter, List.foldl_append] at progress
          exact progress
      | nil =>
          obtain rfl : mail = handled := whole.trans (List.append_nil handled)
          cases told with
          | true =>
              obtain ⟨later, rfl⟩ := shape
              obtain rfl := Option.some.inj stepped
              exact ⟨.exited (.inl rfl), referenced, issued, enough⟩
          | false =>
              obtain rfl : behind = [] := shape
              cases isReferenced with
              | true => cases stepped
              | false =>
                  obtain rfl := Option.some.inj stepped
                  exact ⟨.exited (.inr rfl), referenced, issued, enough⟩
  | exited cause => cases stepped

/-- While there are references, only a signal makes an actor exit. -/
theorem told_of_exited (lives : Lives behavior initial mail told shared)
    (held : 0 < shared.references) (exited : shared.actor.phase = .exited) : told = true := by
  obtain ⟨⟨actor, references⟩, progress, referenced, -, -⟩ := shared, lives
  dsimp only at *
  cases progress with
  | created => cases exited
  | running => cases exited
  | exited cause =>
      refine cause.resolve_right fun gone => ?_
      rw [decide_eq_true held, gone] at referenced
      cases referenced

theorem send (lives : Lives behavior initial mail told shared) (held : 0 < shared.references)
    (content : μ) :
    Lives behavior initial (extended mail told (.send content)) told
      ⟨(shared.actor.send content).2, shared.references⟩ := by
  have signalled := lives.told_of_exited held
  obtain ⟨⟨actor, references⟩, progress, referenced, issued, enough⟩ := shared, lives
  dsimp only at *
  have counted : told = false →
      actor.issued + 1 = (extended mail told (.send content)).length := by
    rintro rfl
    rw [issued rfl]
    simp [extended, ActorEvent.content?]
  have most : (extended mail told (.send content)).length ≤ actor.issued + 1 := by
    cases told with
    | true => exact Nat.le_succ_of_le enough
    | false => exact (counted rfl).ge
  cases progress with
  | created holds =>
      obtain ⟨others, whole, holds⟩ :=
        holds.concat_message (List.nil_append mail).symm issued content
      obtain rfl : _ = others := whole
      exact ⟨.created holds, referenced, counted, most⟩
  | running whole holds =>
      obtain ⟨others, whole, holds⟩ := holds.concat_message whole issued content
      exact ⟨.running whole holds, referenced, counted, most⟩
  | exited cause =>
      obtain rfl := signalled rfl
      exact ⟨.exited (.inl rfl), referenced, issued, enough⟩

theorem terminate (lives : Lives behavior initial mail told shared)
    (held : 0 < shared.references) :
    Lives behavior initial mail true ⟨shared.actor.terminate.2, shared.references⟩ := by
  have signalled := lives.told_of_exited held
  obtain ⟨⟨actor, references⟩, progress, referenced, issued, enough⟩ := shared, lives
  dsimp only at *
  cases progress with
  | created holds => exact ⟨.created holds.concat_term, referenced, nofun, enough⟩
  | running whole holds => exact ⟨.running whole holds.concat_term, referenced, nofun, enough⟩
  | exited cause =>
      obtain rfl := signalled rfl
      exact ⟨.exited (.inl rfl), referenced, nofun, enough⟩

/-- One reference more, and one less of several, is no matter to the actor. -/
theorem withReferences (lives : Lives behavior initial mail told shared)
    (held : 0 < shared.references) {count : Nat} (some : 0 < count) :
    Lives behavior initial mail told ⟨shared.actor, count⟩ :=
  ⟨lives.progress, by rw [lives.referenced, decide_eq_true held, decide_eq_true some],
    lives.issued, lives.enough⟩

theorem release (lives : Lives behavior initial mail told shared) :
    Lives behavior initial mail told ⟨shared.actor.release, 0⟩ := by
  obtain ⟨⟨actor, references⟩, progress, referenced, issued, enough⟩ := shared, lives
  dsimp only at *
  refine ⟨?_, rfl, issued, enough⟩
  cases progress with
  | created holds => exact .created holds
  | running whole holds => exact .running whole holds
  | exited cause => exact .exited (.inr rfl)

theorem step (lives : Lives behavior initial mail told shared) {event : ActorEvent μ}
    (stepped : shared.step? behavior event = some after) :
    Lives behavior initial (extended mail told event) (told || event.isTerm) after := by
  have same (quiet : event.content? = none) : extended mail told event = mail := by
    unfold extended
    split
    · rfl
    · rw [quiet]
      exact List.append_nil mail
  have stays (untold : event.isTerm = false) : (told || event.isTerm) = told := by
    rw [untold, Bool.or_false]
  rcases Shared.step?_cases stepped with
    ⟨actor, rfl, turned, rfl⟩ |
      ⟨held, ⟨content, rfl, rfl⟩ | ⟨rfl, rfl⟩ | ⟨rfl, rfl⟩ | ⟨other, count, some, rfl⟩⟩
  · rw [same rfl, stays rfl]
    exact lives.turn turned
  · rw [stays rfl]
    exact lives.send held content
  · rw [same rfl, ActorEvent.isTerm, Bool.or_true]
    exact lives.terminate held
  · rw [same rfl, stays rfl]
    exact lives.release
  · have kept := lives.withReferences held some
    rcases other with rfl | rfl
    · rwa [same rfl, stays rfl]
    · rwa [same rfl, stays rfl]

theorem run {past events : List (ActorEvent μ)}
    (lives : Lives behavior initial (timely past) (isTold past) shared)
    (ran : shared.run? behavior events = some after) :
    Lives behavior initial (timely (past ++ events)) (isTold (past ++ events)) after := by
  induction events generalizing past shared with
  | nil =>
      obtain rfl := Option.some.inj ran
      rwa [List.append_nil]
  | cons event others inductionHypothesis =>
      obtain ⟨next, stepped, rest⟩ := Option.bind_eq_some_iff.mp ran
      have lived := lives.step stepped
      rw [← timely_concat, ← isTold_concat] at lived
      rw [List.append_cons]
      exact inductionHypothesis lived rest

theorem of_run {events : List (ActorEvent μ)}
    (ran : (Shared.start initial).run? behavior events = some after) :
    Lives behavior initial (timely events) (isTold events) after :=
  (start behavior initial).run ran

/-- What an actor has handled so far, and the state that it is in. -/
theorem handled (lives : Lives behavior initial mail told shared) :
    ∃ handled waiting, mail = handled ++ waiting ∧
      shared.actor.replies = behavior.repliesTo (behavior.start initial) handled ∧
      match shared.actor.phase with
      | .created => handled = [] ∧ shared.actor.state = initial
      | .running => shared.actor.state = behavior.stateAfter (behavior.start initial) handled
      | .exited => waiting = [] ∧ (told = true ∨ shared.references = 0) ∧
          shared.actor.state =
            behavior.stop (behavior.stateAfter (behavior.start initial) handled) := by
  obtain ⟨⟨actor, references⟩, progress, referenced, issued, enough⟩ := shared, lives
  dsimp only at *
  cases progress with
  | created holds => exact ⟨[], mail, rfl, rfl, rfl, rfl⟩
  | running whole holds => exact ⟨_, _, whole, rfl, rfl⟩
  | exited cause =>
      refine ⟨mail, [], (List.append_nil mail).symm, rfl, rfl, cause.imp_right fun gone => ?_, rfl⟩
      rw [gone] at referenced
      exact Nat.eq_zero_of_not_pos (of_decide_eq_false referenced.symm)

/-! ### All turns that an actor can take -/

theorem settle {actor : Actor σ μ ρ} {references : Nat}
    (lives : Lives behavior initial mail told ⟨actor, references⟩) :
    Lives behavior initial mail told ⟨actor.settle behavior, references⟩ := by
  fun_induction Actor.settle behavior actor with
  | case1 actor next stepped inductionHypothesis =>
      exact inductionHypothesis (lives.turn stepped)
  | case2 actor waiting => exact lives

/-- An actor that can take no turn has handled all messages that count. It has stopped
exactly if it was told to or if no reference is left. -/
theorem of_waiting (lives : Lives behavior initial mail told shared)
    (waiting : shared.actor.step? behavior = none) :
    shared.actor.replies = behavior.repliesTo (behavior.start initial) mail ∧
    if told || shared.references == 0 then
      shared.actor.phase = .exited ∧
        shared.actor.state = behavior.stop (behavior.stateAfter (behavior.start initial) mail)
    else
      shared.actor.phase = .running ∧
        shared.actor.state = behavior.stateAfter (behavior.start initial) mail := by
  obtain ⟨⟨actor, references⟩, progress, referenced, issued, enough⟩ := shared, lives
  dsimp only at *
  cases progress with
  | created holds => cases waiting
  | @running handled rest mailbox isReferenced count whole holds =>
      obtain ⟨behind, rfl, shape⟩ := holds
      cases rest with
      | cons entry others => cases waiting
      | nil =>
          obtain rfl : mail = handled := whole.trans (List.append_nil handled)
          cases told with
          | true =>
              obtain ⟨later, rfl⟩ := shape
              cases waiting
          | false =>
              obtain rfl : behind = [] := shape
              cases isReferenced with
              | false => cases waiting
              | true =>
                  have some : 0 < references := of_decide_eq_true referenced.symm
                  have held : references ≠ 0 := Nat.pos_iff_ne_zero.mp some
                  simp [held]
  | exited cause =>
      refine ⟨rfl, ?_⟩
      rw [if_pos]
      · exact ⟨rfl, rfl⟩
      · cases cause with
        | inl signalled => rw [signalled, Bool.true_or]
        | inr gone =>
            rw [gone] at referenced
            have none := of_decide_eq_false referenced.symm
            simp [Nat.eq_zero_of_not_pos none]

end Lives

/-! ## Questions -/

/-- What has come of a question that was given this ticket, or none as it was refused: nothing
yet, or what its asker is told. An actor that has exited tells nobody anything. -/
def Actor.told? (actor : Actor σ μ ρ) : Option Nat → Option (Option ρ)
  | none => some none
  | some ticket =>
      (actor.replies.lookup ticket).or (if actor.phase = .exited then some none else none)

theorem Behavior.lookup_repliesTo_eq_none (behavior : Behavior σ μ ρ) (state : σ)
    {messages : List (Nat × μ)} {ticket : Nat}
    (absent : ∀ entry ∈ messages, entry.1 ≠ ticket) :
    (behavior.repliesTo state messages).lookup ticket = none := by
  rw [List.lookup_eq_none_iff]
  have others : ∀ other ∈ (behavior.repliesTo state messages).map Prod.fst, other ≠ ticket := by
    rw [map_fst_repliesTo, List.forall_mem_map]
    exact absent
  intro entry member
  simpa using (others entry.1 (List.mem_map_of_mem member)).symm

theorem Behavior.lookup_repliesTo (behavior : Behavior σ μ ρ) (state : σ)
    {earlier : List (Nat × μ)} {ticket : Nat} (absent : ∀ entry ∈ earlier, entry.1 ≠ ticket)
    (content : μ) (later : List (Nat × μ)) :
    (behavior.repliesTo state (earlier ++ (ticket, content) :: later)).lookup ticket =
      some (behavior.handle (behavior.stateAfter state earlier) content).2 := by
  rw [repliesTo_append, List.lookup_append, behavior.lookup_repliesTo_eq_none state absent,
    Option.none_or, repliesTo, List.lookup_cons_self]

namespace Actor

variable {behavior : Behavior σ μ ρ} {actor next : Actor σ μ ρ}

theorem step?_settle (behavior : Behavior σ μ ρ) (actor : Actor σ μ ρ) :
    (actor.settle behavior).step? behavior = none := by
  fun_induction settle behavior actor with
  | case1 actor next stepped inductionHypothesis => exact inductionHypothesis
  | case2 actor waiting => exact waiting

/-- An actor that has a turn has not exited, and takes back no reply. -/
theorem replies_step (stepped : actor.step? behavior = some next) :
    actor.phase ≠ .exited ∧ actor.replies <+: next.replies := by
  unfold step? at stepped
  split at stepped
  · next created =>
      obtain rfl := Option.some.inj stepped
      exact ⟨by simp [created], List.prefix_rfl⟩
  · next running mailbox =>
      obtain rfl := Option.some.inj stepped
      exact ⟨by simp [running], List.prefix_append _ _⟩
  · next running mailbox =>
      obtain rfl := Option.some.inj stepped
      exact ⟨by simp [running], List.prefix_rfl⟩
  · next running mailbox =>
      split at stepped
      · cases stepped
      · obtain rfl := Option.some.inj stepped
        exact ⟨by simp [running], List.prefix_rfl⟩
  · cases stepped

/-- What an asker has been told stays. -/
theorem told?_step (stepped : actor.step? behavior = some next) (ticket : Option Nat) :
    actor.told? ticket = none ∨ actor.told? ticket = next.told? ticket := by
  obtain ⟨goesOn, more, replies⟩ := replies_step stepped
  cases ticket with
  | none => exact .inr rfl
  | some ticket =>
      rw [told?, told?, if_neg goesOn, ← replies, List.lookup_append]
      cases actor.replies.lookup ticket with
      | none => exact .inl rfl
      | some reply => exact .inr rfl

theorem told?_settle (behavior : Behavior σ μ ρ) (actor : Actor σ μ ρ) (ticket : Option Nat) :
    actor.told? ticket = none ∨
      actor.told? ticket = (actor.settle behavior).told? ticket := by
  fun_induction settle behavior actor with
  | case1 actor next stepped inductionHypothesis =>
      rcases told?_step stepped ticket with nothing | same
      · exact .inl nothing
      · rwa [same]
  | case2 actor waiting => exact .inr rfl

/-- Asking is sending a question and waiting for what its asker is told. -/
theorem ask_eq (behavior : Behavior σ μ ρ) (actor : Actor σ μ ρ) (content : μ) :
    (actor.ask behavior content).1 =
      (((actor.send content).2.settle behavior).told? (actor.send content).1).join := by
  unfold ask
  rcases actor.send content with ⟨ticket, sent⟩
  cases ticket with
  | none => rfl
  | some ticket =>
      dsimp only [reply?, told?]
      cases (sent.settle behavior).replies.lookup ticket with
      | some reply => rfl
      | none => split <;> rfl

end Actor

namespace Lives

variable {behavior : Behavior σ μ ρ} {initial : σ} {asked final : Shared σ μ ρ}
  {earlier later : List (ActorEvent μ)}

/-- What the asker of a question is told in the end. -/
theorem told (lives : Lives behavior initial (timely earlier) (isTold earlier) asked)
    (held : 0 < asked.references) {content : μ}
    (lived : Lives behavior initial (timely (earlier ++ .send content :: later))
      (isTold (earlier ++ .send content :: later)) final)
    (waiting : final.actor.step? behavior = none) :
    final.actor.told? (asked.actor.send content).1 =
      some (if isTold earlier then none
        else (behavior.handle (behavior.stateAfter (behavior.start initial) (timely earlier))
          content).2) := by
  obtain ⟨replies, ending⟩ := lived.of_waiting waiting
  have signalled := lives.told_of_exited held
  cases told : isTold earlier with
  -- The question is refused, or its ticket is none of those of messages that count.
  | true =>
      have still : isTold (earlier ++ .send content :: later) = true := by
        rw [isTold, List.any_append]
        exact Bool.or_eq_true_iff.mpr (.inl told)
      rw [still, Bool.true_or, if_pos rfl] at ending
      unfold Actor.send
      split
      · rfl
      · have absent : ∀ entry ∈ timely earlier, entry.1 ≠ asked.actor.issued := fun entry member =>
          Nat.ne_of_lt ((lt_length_of_mem_timely member).trans_le lives.enough)
        rw [Actor.told?, replies, timely_append_of_told told,
          behavior.lookup_repliesTo_eq_none _ absent, if_pos ending.1]
        rfl
  | false =>
      have goesOn : asked.actor.phase ≠ .exited := by
        intro exited
        rw [signalled exited] at told
        cases told
      have absent : ∀ entry ∈ timely earlier, entry.1 ≠ (timely earlier).length :=
        fun entry member => Nat.ne_of_lt (lt_length_of_mem_timely member)
      obtain ⟨rest, mail⟩ := timely_append_send told content later
      rw [Actor.send_eq goesOn, Actor.told?, replies, lives.issued told, mail,
        behavior.lookup_repliesTo _ absent]
      rfl

end Lives

/-- Whatever is sent to an actor by any number of senders, whatever references come and go and
whenever it gets its turns: it runs its start handler first and then handles messages in order of
arrival, each once, and only those that were enqueued before the first signal. Once it has had all
its turns it has handled all of them, and has run its stop handler exactly if there was a signal or
no reference is left; from then on nothing changes its state. A question before the signal is told
what the handler answers in the state after exactly the messages before it. A question after the
signal is told nothing, and an actor that has exited takes none. -/
theorem actors_serve_until_told (behavior : Behavior σ μ ρ) (initial : σ)
    (events : List (ActorEvent μ)) {shared : Shared σ μ ρ}
    (ran : (Shared.start initial).run? behavior events = some shared) :
    let started := behavior.start initial
    let settled := shared.actor.settle behavior
    (∃ handled waiting, timely events = handled ++ waiting ∧
      shared.actor.replies = behavior.repliesTo started handled ∧
      match shared.actor.phase with
      | .created => handled = [] ∧ shared.actor.state = initial
      | .running => shared.actor.state = behavior.stateAfter started handled
      | .exited => waiting = [] ∧ (isTold events = true ∨ shared.references = 0) ∧
          shared.actor.state = behavior.stop (behavior.stateAfter started handled)) ∧
    (settled.step? behavior = none ∧
      settled.replies = behavior.repliesTo started (timely events) ∧
      if isTold events || shared.references == 0 then
        settled.phase = .exited ∧
          settled.state = behavior.stop (behavior.stateAfter started (timely events))
      else
        settled.phase = .running ∧
          settled.state = behavior.stateAfter started (timely events)) ∧
    (shared.actor.phase = .exited → ∀ later final, shared.run? behavior later = some final →
      final.actor.phase = .exited ∧ final.actor.state = shared.actor.state ∧
        final.actor.replies = shared.actor.replies) ∧
    (∀ earlier content later, events = earlier ++ .send content :: later →
      ∃ asked, (Shared.start initial).run? behavior earlier = some asked ∧
        let ticket := (asked.actor.send content).1
        (ticket = none ↔ asked.actor.phase = .exited) ∧
        settled.told? ticket = some (if isTold earlier then none
          else (behavior.handle (behavior.stateAfter started (timely earlier)) content).2) ∧
        (shared.actor.told? ticket = none ∨
          shared.actor.told? ticket = settled.told? ticket)) ∧
    (0 < shared.references → ∀ content,
      (shared.actor.ask behavior content).1 = if isTold events then none
        else (behavior.handle (behavior.stateAfter started (timely events)) content).2) := by
  intro started settled
  have lives := Lives.of_run ran
  have lived : Lives behavior initial (timely events) (isTold events)
      ⟨settled, shared.references⟩ := lives.settle
  have waiting : settled.step? behavior = none := Actor.step?_settle behavior shared.actor
  refine ⟨lives.handled, ⟨waiting, lived.of_waiting waiting⟩, ?_, ?_, ?_⟩
  · exact fun exited later final ran => Shared.exited_run exited ran
  · rintro earlier content later rfl
    rw [Shared.run?_append] at ran
    obtain ⟨asked, asking, rest⟩ := Option.bind_eq_some_iff.mp ran
    obtain ⟨next, sent, -⟩ := Option.bind_eq_some_iff.mp rest
    refine ⟨asked, asking, ?_, ?_, Actor.told?_settle behavior shared.actor _⟩
    · unfold Actor.send
      split
      · next exited => exact iff_of_true rfl exited
      · next goesOn => exact iff_of_false nofun goesOn
    · exact (Lives.of_run asking).told (Shared.held_of_send sent) lived waiting
  · intro held content
    have untermed : isTold (events ++ [.send content]) = isTold events :=
      (isTold_concat events _).trans (Bool.or_false _)
    have questioned := lives.send held content
    rw [← timely_concat, ← untermed] at questioned
    have answered : Actor.told? ((shared.actor.send content).2.settle behavior)
        (shared.actor.send content).1 = some (if isTold events then none
          else (behavior.handle (behavior.stateAfter started (timely events)) content).2) :=
      lives.told held questioned.settle (Actor.step?_settle behavior _)
    rw [Actor.ask_eq, answered, Option.join_some]

/-- Writes down what it does, and answers with what it has written. -/
def diary : Behavior (List String) String (List String) where
  start entries := entries ++ ["start"]
  handle entries message :=
    (entries ++ [message], if message = "ask" then some entries else none)
  stop entries := entries ++ ["stop"]

/-- Two senders: the second asks before the signal and again behind it. -/
def diaryEvents : List (ActorEvent String) :=
  [.send "one", .clone, .turn, .send "ask", .term, .send "ask", .turn, .send "two", .drop, .turn]

theorem actors_serve_until_told_diary :
    ∃ shared : Shared (List String) String (List String),
      (Shared.start []).run? diary diaryEvents = some shared ∧
        (shared.actor.settle diary).state = ["start", "one", "ask", "stop"] ∧
        (shared.actor.settle diary).told? (some 1) = some (some ["start", "one"]) ∧
        (shared.actor.settle diary).told? (some 2) = some none ∧
        (shared.actor.ask diary "ask").1 = none := by
  obtain ⟨shared, ran⟩ := Option.isSome_iff_exists.mp
    (by decide +kernel : ((Shared.start []).run? diary diaryEvents).isSome)
  have held : 0 < shared.references := by
    have references : ((Shared.start []).run? diary diaryEvents).map (·.references) = some 1 := by
      decide +kernel
    rw [ran] at references
    have one : shared.references = 1 := Option.some.inj references
    rw [one]
    exact Nat.one_pos
  obtain ⟨-, ⟨-, -, settled⟩, -, questions, asked⟩ :=
    actors_serve_until_told diary [] diaryEvents ran
  have early := questions [.send "one", .clone, .turn] "ask" _ rfl
  have late := questions [.send "one", .clone, .turn, .send "ask", .term] "ask" _ rfl
  obtain ⟨first, firstRan, -, firstTold, -⟩ := early
  obtain ⟨second, secondRan, -, secondTold, -⟩ := late
  obtain rfl := Option.some.inj firstRan
  obtain rfl := Option.some.inj secondRan
  exact ⟨shared, ran, settled.2, firstTold, secondTold, asked held "ask"⟩

end ArithmeticCloud.Concurrency
