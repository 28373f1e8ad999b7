import ArithmeticCloud.Fault
import ArithmeticCloud.Transport.Line

/-!
Contract: one end of a byte stream that carries framed messages and counts them.

Owns:
- sending, which refuses a message with a line feed and writes nothing then;
- receiving, as bytes or as text;
- the counters, which hold the lengths of the messages sent and received without
  their terminators, added up modulo 2^64. A message that is refused is not counted;
  one that arrives and turns out not to be text is.

Does not own: the other end, which reads `outgoing` and appends to `incoming`.
-/

namespace ArithmeticCloud.Transport

structure Channel where
  /-- Bytes that have arrived and have not been received. -/
  incoming : Bytes
  /-- Whether the other end has closed its sending half. -/
  incomingClosed : Bool
  /-- Bytes that were sent and have not been read by the other end. -/
  outgoing : Bytes
  /-- Whether the other end still reads. -/
  outgoingOpen : Bool
  sent : UInt64
  received : UInt64
deriving DecidableEq, Repr

inductive Receipt (α : Type) where
  | message (content : α)
  | ended
  | waiting
  | failed (fault : Fault)
deriving DecidableEq, Repr

def invalidText : Fault := .channel "message is not valid UTF-8"

def brokenLine : Fault := .channel "message contains a line break"

namespace Channel

def fresh : Channel := ⟨[], false, [], true, 0, 0⟩

/-- A channel on which the other end has sent these bytes and nothing more. -/
def ofStream (stream : Bytes) : Channel := { fresh with incoming := stream, incomingClosed := true }

def arrive (channel : Channel) (bytes : Bytes) : Channel :=
  { channel with incoming := channel.incoming ++ bytes }

def closeIncoming (channel : Channel) : Channel := { channel with incomingClosed := true }

def close (channel : Channel) : Channel :=
  { channel with incomingClosed := true, outgoingOpen := false, outgoing := [] }

def drain (channel : Channel) : Bytes × Channel :=
  (channel.outgoing, { channel with outgoing := [] })

/-- The end after a message was written as these bytes. -/
def write (channel : Channel) (message framed : Bytes) : Channel :=
  { channel with
    outgoing := channel.outgoing ++ framed
    sent := channel.sent + UInt64.ofNat message.length }

/-- The end after a message was taken off, and these bytes are left. -/
def take (channel : Channel) (message rest : Bytes) : Channel :=
  { channel with
    incoming := rest
    received := channel.received + UInt64.ofNat message.length }

@[simp] theorem outgoing_write (channel : Channel) (message framed : Bytes) :
    (channel.write message framed).outgoing = channel.outgoing ++ framed := rfl

@[simp] theorem incoming_take (channel : Channel) (message rest : Bytes) :
    (channel.take message rest).incoming = rest := rfl

@[simp] theorem incomingClosed_take (channel : Channel) (message rest : Bytes) :
    (channel.take message rest).incomingClosed = channel.incomingClosed := rfl

def send (channel : Channel) (message : Bytes) : Except Fault Unit × Channel :=
  match frame? message with
  | none => (.error brokenLine, channel)
  | some framed =>
      if channel.outgoingOpen then
        (.ok (), channel.write message framed)
      else
        (.error (.transport "broken pipe"), channel)

def sendText (channel : Channel) (text : String) : Except Fault Unit × Channel :=
  channel.send (bytesOf text)

def receive (channel : Channel) : Receipt Bytes × Channel :=
  match Transport.receive channel.incomingClosed channel.incoming with
  | .message content rest => (.message content, channel.take content rest)
  | .ended => (.ended, channel)
  | .waiting => (.waiting, channel)

def receiveText (channel : Channel) : Receipt String × Channel :=
  match channel.receive with
  | (.message content, channel) =>
      match text? content with
      | some text => (.message text, channel)
      | none => (.failed invalidText, channel)
  | (.ended, channel) => (.ended, channel)
  | (.waiting, channel) => (.waiting, channel)
  | (.failed fault, channel) => (.failed fault, channel)

end Channel

end ArithmeticCloud.Transport
