import ArithmeticCloud.Wire.Message

/-!
Contract: the three protocols of the cloud.

Owns:
- `Datagram`, what nodes and the controller send to each other without a
  connection;
- `NodeRequest`, what a node is asked over a connection;
- `Vote`, a node's answer to an offered share.

Each has a schema, a view as a message and the way back.

Does not own: what the receiver does with a message.
-/

namespace ArithmeticCloud.Wire

open Network

/-! ## Datagrams -/

inductive Datagram where
  | hello
  /-- The stream endpoints of the peers that are online, and the resource ceiling. -/
  | init (peers : List Endpoint) (ceiling : UInt64)
  /-- The sender is alive and takes connections at a port of its address. -/
  | alive (tcp : UInt16) (operators : OperatorSet)
deriving DecidableEq, Repr

namespace Datagram

def helloVariant : Variant := ⟨"hello", []⟩

def initVariant : Variant := ⟨"init", [.many .endpoint, .one .word64]⟩

def aliveVariant : Variant := ⟨"alive", [.one .word16, .one .operators]⟩

def schema : Schema := [helloVariant, initVariant, aliveVariant]

def toMessage : Datagram → Message
  | .hello => ⟨helloVariant, ()⟩
  | .init peers ceiling => ⟨initVariant, (peers, ceiling, ())⟩
  | .alive tcp operators => ⟨aliveVariant, (tcp, operators, ())⟩

def ofMessage? : Message → Option Datagram
  | ⟨⟨"hello", []⟩, ()⟩ => some .hello
  | ⟨⟨"init", [.many .endpoint, .one .word64]⟩, (peers, ceiling, ())⟩ =>
      some (.init peers ceiling)
  | ⟨⟨"alive", [.one .word16, .one .operators]⟩, (tcp, operators, ())⟩ =>
      some (.alive tcp operators)
  | _ => none

def encode (datagram : Datagram) : String := datagram.toMessage.encode

def decode? (line : String) : Option Datagram := (Message.decode? schema line).bind ofMessage?

theorem ofMessage?_toMessage (datagram : Datagram) :
    ofMessage? datagram.toMessage = some datagram := by
  cases datagram <;> rfl

end Datagram

/-! ## Requests to a node -/

inductive NodeRequest where
  | share (value : UInt64)
  /-- Promotes the staged share. -/
  | commit (value : UInt64)
  /-- Discards the staged share. -/
  | rollback
  | compute (left : Int64) (operator : Operator) (right : Int64)
  /-- Asks for the history, one record per line, after which the node closes. -/
  | getLogs
deriving DecidableEq, Repr

namespace NodeRequest

def shareVariant : Variant := ⟨"share", [.one .word64]⟩

def commitVariant : Variant := ⟨"commit", [.one .word64]⟩

def rollbackVariant : Variant := ⟨"rollback", []⟩

def computeVariant : Variant := ⟨"compute", [.one .integer, .one .operator, .one .integer]⟩

def getLogsVariant : Variant := ⟨"getlogs", []⟩

def schema : Schema :=
  [shareVariant, commitVariant, rollbackVariant, computeVariant, getLogsVariant]

def toMessage : NodeRequest → Message
  | .share value => ⟨shareVariant, (value, ())⟩
  | .commit value => ⟨commitVariant, (value, ())⟩
  | .rollback => ⟨rollbackVariant, ()⟩
  | .compute left operator right => ⟨computeVariant, (left, operator, right, ())⟩
  | .getLogs => ⟨getLogsVariant, ()⟩

def ofMessage? : Message → Option NodeRequest
  | ⟨⟨"share", [.one .word64]⟩, (value, ())⟩ => some (.share value)
  | ⟨⟨"commit", [.one .word64]⟩, (value, ())⟩ => some (.commit value)
  | ⟨⟨"rollback", []⟩, ()⟩ => some .rollback
  | ⟨⟨"compute", [.one .integer, .one .operator, .one .integer]⟩,
      (left, operator, right, ())⟩ => some (.compute left operator right)
  | ⟨⟨"getlogs", []⟩, ()⟩ => some .getLogs
  | _ => none

def encode (request : NodeRequest) : String := request.toMessage.encode

def decode? (line : String) : Option NodeRequest := (Message.decode? schema line).bind ofMessage?

theorem ofMessage?_toMessage (request : NodeRequest) :
    ofMessage? request.toMessage = some request := by
  cases request <;> rfl

end NodeRequest

/-! ## Votes -/

inductive Vote where
  | accept
  | reject
deriving DecidableEq, Repr

namespace Vote

def acceptVariant : Variant := ⟨"ok", []⟩

def rejectVariant : Variant := ⟨"nok", []⟩

def schema : Schema := [acceptVariant, rejectVariant]

def toMessage : Vote → Message
  | .accept => ⟨acceptVariant, ()⟩
  | .reject => ⟨rejectVariant, ()⟩

def ofMessage? : Message → Option Vote
  | ⟨⟨"ok", []⟩, ()⟩ => some .accept
  | ⟨⟨"nok", []⟩, ()⟩ => some .reject
  | _ => none

def encode (vote : Vote) : String := vote.toMessage.encode

def decode? (line : String) : Option Vote := (Message.decode? schema line).bind ofMessage?

theorem ofMessage?_toMessage (vote : Vote) : ofMessage? vote.toMessage = some vote := by
  cases vote <;> rfl

end Vote

/-! ## Snapshots of the membership -/

/-- What a `hello` is answered with. -/
structure Snapshot where
  peers : List Endpoint
  ceiling : UInt64
deriving DecidableEq, Repr

namespace Snapshot

def ofDatagram? : Datagram → Option Snapshot
  | .init peers ceiling => some ⟨peers, ceiling⟩
  | _ => none

def toDatagram (snapshot : Snapshot) : Datagram := .init snapshot.peers snapshot.ceiling

/-- The equal share of a node that joins: the ceiling divided among the peers and
the joiner, rounded down. The count of peers is far from the bound of a word. -/
def proposedShare (snapshot : Snapshot) : UInt64 :=
  UInt64.ofNat (snapshot.ceiling.toNat / (snapshot.peers.length + 1))

end Snapshot

end ArithmeticCloud.Wire
