/-!
Contract: internet addresses and the endpoints of stream connections.

Owns: the types, their order and their distinguished values.

Does not own: their text forms, which are in `Network.AddressText`.
-/

namespace ArithmeticCloud.Network

/-- Four octets, most significant first. -/
structure IPv4 where
  first : UInt8
  second : UInt8
  third : UInt8
  fourth : UInt8
deriving DecidableEq, Repr

/-- Eight groups of sixteen bits, most significant first. -/
structure IPv6 where
  groups : List UInt16
  size_eq : groups.length = 8
deriving DecidableEq, Repr

inductive Address where
  | v4 (address : IPv4)
  | v6 (address : IPv6)
deriving DecidableEq, Repr

/-- An address with a port. A version 6 endpoint also names the zone that its
address is meant in; zone `0` is the default. -/
inductive Endpoint where
  | v4 (address : IPv4) (port : UInt16)
  | v6 (address : IPv6) (port : UInt16) (zone : UInt32)
deriving DecidableEq, Repr

namespace IPv4

def unspecified : IPv4 := ⟨0, 0, 0, 0⟩

def loopback : IPv4 := ⟨127, 0, 0, 1⟩

def octets (address : IPv4) : List UInt8 :=
  [address.first, address.second, address.third, address.fourth]

/-- The address as one number, which orders addresses. -/
def rank (address : IPv4) : Nat :=
  address.octets.foldl (fun total octet => 256 * total + octet.toNat) 0

end IPv4

/-- The address as one number, which orders addresses. -/
def IPv6.rank (address : IPv6) : Nat :=
  address.groups.foldl (fun total group => 65536 * total + group.toNat) 0

namespace Endpoint

/-- The endpoint at a port of an address, in the default zone. -/
def ofAddress : Address → UInt16 → Endpoint
  | .v4 address, port => .v4 address port
  | .v6 address, port => .v6 address port 0

def address : Endpoint → Address
  | .v4 address _ => .v4 address
  | .v6 address _ _ => .v6 address

def port : Endpoint → UInt16
  | .v4 _ port => port
  | .v6 _ port _ => port

theorem address_ofAddress (host : Address) (port : UInt16) :
    (ofAddress host port).address = host := by
  cases host <;> rfl

theorem port_ofAddress (host : Address) (port : UInt16) :
    (ofAddress host port).port = port := by
  cases host <;> rfl

theorem ofAddress_injective {left right : Address} {leftPort rightPort : UInt16}
    (equal : ofAddress left leftPort = ofAddress right rightPort) :
    left = right ∧ leftPort = rightPort := by
  constructor
  · rw [← address_ofAddress left leftPort, equal, address_ofAddress]
  · rw [← port_ofAddress left leftPort, equal, port_ofAddress]

end Endpoint

end ArithmeticCloud.Network
