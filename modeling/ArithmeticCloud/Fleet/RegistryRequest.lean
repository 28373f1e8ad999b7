import ArithmeticCloud.Fleet.Registry

/-!
Contract: what the registry can be asked and told.

Owns: the requests, what each is answered with, and its effect. Notices are not
answered; questions change nothing; a sweep does both.

Does not own: who makes requests.
-/

namespace ArithmeticCloud.Fleet

open Network Wire

inductive RegistryRequest where
  | upsert (address : Address) (port : UInt16) (operators : OperatorSet) (now : Int64)
  | markOffline (endpoint : Endpoint)
  | addUsage (endpoint : Endpoint) (amount : UInt64)
  | sweep (now timeout : Int64)
  | pick (operator : Operator)
  | snapshot (ceiling : UInt64)
  | availableOperators
  | records
deriving DecidableEq, Repr

inductive RegistryAnswer where
  | noted
  /-- How many nodes a sweep took offline. -/
  | swept (count : Nat)
  | picked (node : Option Endpoint)
  | snapshot (snapshot : Snapshot)
  | availableOperators (set : OperatorSet)
  | records (records : List NodeRecord)
deriving DecidableEq, Repr

def Registry.handle (registry : Registry) : RegistryRequest → RegistryAnswer × Registry
  | .upsert address port operators now => (.noted, registry.upsert address port operators now)
  | .markOffline endpoint => (.noted, registry.markOffline endpoint)
  | .addUsage endpoint amount => (.noted, registry.addUsage endpoint amount)
  | .sweep now timeout =>
      let (count, registry) := registry.sweep now timeout
      (.swept count, registry)
  | .pick operator => (.picked (registry.pick? operator), registry)
  | .snapshot ceiling => (.snapshot (registry.snapshot ceiling), registry)
  | .availableOperators => (.availableOperators registry.availableOperators, registry)
  | .records => (.records registry.records, registry)

/-- Whether whoever makes the request waits for an answer. -/
def RegistryRequest.isAnswered : RegistryRequest → Bool
  | .upsert .. | .markOffline _ | .addUsage .. => false
  | _ => true

end ArithmeticCloud.Fleet
