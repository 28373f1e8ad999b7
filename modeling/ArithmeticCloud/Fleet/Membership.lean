import ArithmeticCloud.Fleet.Registry
import ArithmeticCloud.Transport.Line

/-!
Contract: how datagrams change the registry and what they are answered with.

Owns: the bound on the size of a datagram, the answer to a `hello`, and the
notice that an `alive` is. Every other datagram is dropped.

Does not own: sockets, and what a node does with the answer.
-/

namespace ArithmeticCloud.Fleet

open Network Transport Wire

/-- Bytes beyond this many are lost when a datagram is received. -/
def datagramLimit : Nat := 4096

/-- What a receiver makes of the bytes of a datagram. -/
def receiveDatagram? (bytes : Bytes) : Option Datagram :=
  (text? (bytes.take datagramLimit)).bind Datagram.decode?

/-- The answer to a datagram from an address, and the registry after it. -/
def Registry.handleDatagram (registry : Registry) (ceiling : UInt64) (now : Int64)
    (source : Address) (bytes : Bytes) : Option Datagram × Registry :=
  match receiveDatagram? bytes with
  | some .hello => (some (registry.snapshot ceiling).toDatagram, registry)
  | some (.alive tcp operators) => (none, registry.upsert source tcp operators now)
  | some (.init ..) => (none, registry)
  | none => (none, registry)

end ArithmeticCloud.Fleet
