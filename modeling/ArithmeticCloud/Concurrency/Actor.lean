/-!
Contract: actors, each of which owns some state and handles its messages one at a
time in the order in which they were enqueued.

Owns:
- `Behavior`, what an actor does when it starts, handles a message and stops;
- `Actor.step?`, one turn of an actor, and `Actor.settle`, all turns until it
  waits for a message or has exited;
- sending, the termination signal, references, and asking.

Does not own: when an actor gets its turns. Sending only enqueues; whoever waits
for an actor lets it settle.
-/

namespace ArithmeticCloud.Concurrency

/-- What an actor with state `σ` does. A handler may put an answer of type `ρ`
into the reply slot of the message. -/
structure Behavior (σ μ ρ : Type) where
  start : σ → σ
  handle : σ → μ → σ × Option ρ
  stop : σ → σ

/-- An entry of a mailbox. Tickets number the messages in order of arrival. -/
inductive Envelope (μ : Type) where
  | message (ticket : Nat) (content : μ)
  /-- Stop before the next message. -/
  | term
deriving DecidableEq, Repr

inductive Phase where
  | created
  | running
  | exited
deriving DecidableEq, Repr

structure Actor (σ μ ρ : Type) where
  state : σ
  phase : Phase
  mailbox : List (Envelope μ)
  referenced : Bool
  issued : Nat
  /-- The reply slots of the messages handled so far, by ticket. -/
  replies : List (Nat × Option ρ)
deriving Repr

namespace Actor

variable {σ μ ρ : Type}

/-- An actor that has not had its first turn. -/
def create (state : σ) : Actor σ μ ρ := ⟨state, .created, [], true, 0, []⟩

/-- Enqueues a message and gives its ticket. An actor that has exited takes no
message. -/
def send (actor : Actor σ μ ρ) (content : μ) : Option Nat × Actor σ μ ρ :=
  if actor.phase = .exited then
    (none, actor)
  else
    (some actor.issued, { actor with
      mailbox := actor.mailbox ++ [.message actor.issued content]
      issued := actor.issued + 1 })

def terminate (actor : Actor σ μ ρ) : Bool × Actor σ μ ρ :=
  if actor.phase = .exited then
    (false, actor)
  else
    (true, { actor with mailbox := actor.mailbox ++ [.term] })

def release (actor : Actor σ μ ρ) : Actor σ μ ρ := { actor with referenced := false }

/-- Runs the stop handler and drops what is left in the mailbox. -/
def exit (behavior : Behavior σ μ ρ) (actor : Actor σ μ ρ) : Actor σ μ ρ :=
  { actor with state := behavior.stop actor.state, phase := .exited, mailbox := [] }

/-- One turn, unless the actor waits or has exited. -/
def step? (behavior : Behavior σ μ ρ) (actor : Actor σ μ ρ) : Option (Actor σ μ ρ) :=
  match actor.phase, actor.mailbox with
  | .created, _ => some { actor with state := behavior.start actor.state, phase := .running }
  | .running, .message ticket content :: rest =>
      let (state, reply) := behavior.handle actor.state content
      some { actor with
        state := state
        mailbox := rest
        replies := actor.replies ++ [(ticket, reply)] }
  | .running, .term :: _ => some (actor.exit behavior)
  | .running, [] => if actor.referenced then none else some (actor.exit behavior)
  | .exited, _ => none

/-- A bound on the turns that an actor can take without new messages. -/
def pending (actor : Actor σ μ ρ) : Nat :=
  match actor.phase with
  | .created => actor.mailbox.length + 2
  | .running => actor.mailbox.length + 1
  | .exited => 0

theorem pending_step {behavior : Behavior σ μ ρ} {actor next : Actor σ μ ρ}
    (stepped : actor.step? behavior = some next) : next.pending < actor.pending := by
  unfold step? at stepped
  split at stepped
  · next isCreated =>
      obtain rfl := Option.some.inj stepped
      simp [pending, isCreated]
  · next isRunning mailbox =>
      obtain rfl := Option.some.inj stepped
      simp [pending, isRunning, mailbox]
  · next isRunning mailbox =>
      obtain rfl := Option.some.inj stepped
      simp [pending, exit, isRunning]
  · next isRunning mailbox =>
      split at stepped
      · cases stepped
      · obtain rfl := Option.some.inj stepped
        simp [pending, exit, isRunning]
  · cases stepped

/-- Takes turns until the actor waits or has exited. -/
def settle (behavior : Behavior σ μ ρ) (actor : Actor σ μ ρ) : Actor σ μ ρ :=
  match _stepped : actor.step? behavior with
  | some next => settle behavior next
  | none => actor
termination_by actor.pending
decreasing_by exact pending_step _stepped

/-- The answer in the reply slot of a ticket, once its message has been handled. -/
def reply? (actor : Actor σ μ ρ) (ticket : Nat) : Option ρ :=
  (actor.replies.lookup ticket).join

/-- Sends a message and waits for the answer. There is none if the actor has
exited, exits before the message, or drops the reply slot. -/
def ask (behavior : Behavior σ μ ρ) (actor : Actor σ μ ρ) (content : μ) :
    Option ρ × Actor σ μ ρ :=
  match actor.send content with
  | (none, actor) => (none, actor)
  | (some ticket, actor) =>
      let settled := actor.settle behavior
      (settled.reply? ticket, settled)

end Actor

end ArithmeticCloud.Concurrency
