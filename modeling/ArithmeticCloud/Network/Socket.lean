import ArithmeticCloud.Network.AddressText

/-!
Contract: where a process can be reached.

Owns: hosts, which are an address or a name; sockets, which are a host with a
datagram port and a stream port; their text and their order.

Does not own: the resolution of names.
-/

namespace ArithmeticCloud.Network

open Text

inductive Host where
  | named (name : String)
  | at (address : Address)
deriving DecidableEq, Repr

/-- A host with one port for datagrams and one for streams. Port `0` stands for
no port, or for any free port when a process binds it. -/
structure Socket where
  host : Host
  udp : UInt16
  tcp : UInt16
deriving DecidableEq, Repr

namespace Address

/-- Version 4 before version 6, then by number. -/
def compare : Address → Address → Ordering
  | .v4 left, .v4 right => Ord.compare left.rank right.rank
  | .v4 _, .v6 _ => .lt
  | .v6 _, .v4 _ => .gt
  | .v6 left, .v6 right => Ord.compare left.rank right.rank

end Address

namespace Host

/-- A text that is an address stands for it; any other text is a name. -/
def ofText (text : String) : Host :=
  match Address.parse? text.toList with
  | some address => .at address
  | none => .named text

def compare : Host → Host → Ordering
  | .named left, .named right => Ord.compare left right
  | .named _, .at _ => .lt
  | .at _, .named _ => .gt
  | .at left, .at right => left.compare right

def text : Host → String
  | .named name => s!"DNS({name})"
  | .at address => s!"IP({String.ofList address.text})"

end Host

namespace Socket

/-- Any address of this machine, with free ports. -/
def anywhere : Socket := ⟨.at (.v4 .unspecified), 0, 0⟩

def localhost (udp tcp : UInt16) : Socket := ⟨.at (.v4 .loopback), udp, tcp⟩

/-- By host, then by datagram port, then by stream port. -/
def compare (left right : Socket) : Ordering :=
  (left.host.compare right.host).then <|
    (Ord.compare left.udp right.udp).then (Ord.compare left.tcp right.tcp)

/-- Sorts sockets, keeping the order of equal ones. -/
def sort (sockets : List Socket) : List Socket :=
  sockets.mergeSort fun left right => left.compare right != .gt

def text (socket : Socket) : String :=
  s!"{socket.host.text}:{socket.udp.toNat}|{socket.tcp.toNat}"

/-- The endpoints of a socket for a port, when no lookup is needed. -/
def endpoints? (socket : Socket) (port : UInt16) : Option (List Endpoint) :=
  match socket.host with
  | .at address => some [.ofAddress address port]
  | .named _ => none

end Socket

end ArithmeticCloud.Network
