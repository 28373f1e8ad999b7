/-!
Contract: messages framed as lines of a byte stream.

Owns:
- framing: a message is followed by a line feed and may not contain one;
- receiving: a message ends at a line feed, and one carriage return in front of
  that line feed is dropped. When the stream has ended, bytes without a line feed
  are a message too;
- text of messages, which has to be UTF-8.

Does not own: counting, and who is on the other side.
-/

namespace ArithmeticCloud.Transport

abbrev Bytes := List UInt8

def lineFeed : UInt8 := 10

def carriageReturn : UInt8 := 13

def bytesOf (text : String) : Bytes := text.toUTF8.data.toList

/-- The text of bytes that are valid UTF-8. -/
def text? (bytes : Bytes) : Option String := String.fromUTF8? ⟨bytes.toArray⟩

/-- The bytes that carry a message, unless it contains a line feed. -/
def frame? (message : Bytes) : Option Bytes :=
  if message.contains lineFeed then none else some (message ++ [lineFeed])

def dropReturn (line : Bytes) : Bytes :=
  if line.getLast? = some carriageReturn then line.dropLast else line

inductive Arrival where
  | message (content rest : Bytes)
  /-- The other side has closed and nothing is left. -/
  | ended
  /-- No message is complete, and more bytes may come. -/
  | waiting
deriving DecidableEq, Repr

/-- The next message among the bytes that have arrived. -/
def receive (closed : Bool) (arrived : Bytes) : Arrival :=
  let line := arrived.takeWhile (· != lineFeed)
  match arrived.dropWhile (· != lineFeed) with
  | _ :: rest => .message (dropReturn line) rest
  | [] =>
      if closed then
        if line.isEmpty then .ended else .message line []
      else
        .waiting

/-- A message takes at least one byte off the stream. -/
theorem length_rest_lt {closed : Bool} {arrived content rest : Bytes}
    (received : receive closed arrived = .message content rest) :
    rest.length < arrived.length := by
  have whole : (arrived.takeWhile (· != lineFeed)).length +
      (arrived.dropWhile (· != lineFeed)).length = arrived.length := by
    rw [← List.length_append, List.takeWhile_append_dropWhile]
  unfold receive at received
  dsimp only at received
  split at received
  · next first others split =>
      simp only [Arrival.message.injEq] at received
      obtain ⟨-, rfl⟩ := received
      simp only [split, List.length_cons] at whole
      omega
  · next split =>
      split at received
      · split at received
        · cases received
        · next nonempty =>
            simp only [Arrival.message.injEq] at received
            obtain ⟨-, rfl⟩ := received
            have positive : 0 < (arrived.takeWhile (· != lineFeed)).length := by
              cases line : arrived.takeWhile (· != lineFeed) with
              | nil => simp [line] at nonempty
              | cons _ _ => simp
            simp only [List.length_nil]
            omega
      · cases received

/-- Every message among the bytes that have arrived, and the bytes that are left. -/
def receiveAll (closed : Bool) (arrived : Bytes) : List Bytes × Bytes :=
  match _found : receive closed arrived with
  | .message content rest =>
      let (others, left) := receiveAll closed rest
      (content :: others, left)
  | .ended => ([], [])
  | .waiting => ([], arrived)
termination_by arrived.length
decreasing_by exact length_rest_lt _found

def messages (stream : Bytes) : List Bytes := (receiveAll true stream).1

end ArithmeticCloud.Transport
