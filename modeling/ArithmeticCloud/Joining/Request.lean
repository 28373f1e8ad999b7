import ArithmeticCloud.Fleet.Membership

/-!
Contract: how a joining node learns the membership.

Owns: which datagram it adopts, the first `init` among those that arrive in
answer to its repeated `hello`. Everything else is ignored.

Does not own: when a `hello` is repeated.
-/

namespace ArithmeticCloud.Joining

open Fleet Transport Wire

/-- The snapshot that a datagram carries, as far as it is received. -/
def adopt? (datagram : Bytes) : Option Snapshot :=
  (receiveDatagram? datagram).bind Snapshot.ofDatagram?

/-- The first snapshot among the datagrams in order of arrival. -/
def requestSnapshot? (arrivals : List Bytes) : Option Snapshot := arrivals.findSome? adopt?

end ArithmeticCloud.Joining
