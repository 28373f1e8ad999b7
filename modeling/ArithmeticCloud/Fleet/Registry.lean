import ArithmeticCloud.Arithmetic.OperatorSet
import ArithmeticCloud.Arithmetic.Saturation
import ArithmeticCloud.Network.AddressText
import ArithmeticCloud.Wire.Protocol

/-!
Contract: what the controller knows about the nodes.

Owns:
- one record per endpoint, in the order in which endpoints were first seen; no
  record is ever removed, and a record keeps the operators of its first notice;
- going offline, by name or by silence, and coming back online;
- the choice of a node for an operator: among the nodes that are online and
  support it, the least used, and of several the one seen first.

Does not own: where notices come from, or the time.
-/

namespace ArithmeticCloud.Fleet

open Network Wire

structure NodeRecord where
  address : Address
  port : UInt16
  operators : OperatorSet
  usage : UInt64
  online : Bool
  lastSeen : Int64
deriving DecidableEq, Repr

namespace NodeRecord

/-- Where the node takes connections; this identifies the node. -/
def endpoint (record : NodeRecord) : Endpoint := .ofAddress record.address record.port

/-- Whether the node can be given the operator now. -/
def serves (record : NodeRecord) (operator : Operator) : Bool :=
  record.online && record.operators.contains operator

/-- Whether a node that is online has been silent for longer than the timeout. -/
def isExpired (record : NodeRecord) (now timeout : Int64) : Bool :=
  record.online && timeout < now - record.lastSeen

def text (record : NodeRecord) : String :=
  let status := if record.online then "online" else "offline"
  "IP: " ++ String.ofList record.address.text ++
    s!" Port: {record.port.toNat} {status} Usage: {record.usage.toNat}"

end NodeRecord

structure Registry where
  records : List NodeRecord
deriving DecidableEq, Repr

namespace Registry

def empty : Registry := ⟨[]⟩

/-! ## Records -/

def find? (registry : Registry) (endpoint : Endpoint) : Option NodeRecord :=
  registry.records.find? fun record => record.endpoint == endpoint

/-- Changes the record of an endpoint, if there is one. -/
def modify (registry : Registry) (endpoint : Endpoint) (change : NodeRecord → NodeRecord) :
    Registry :=
  ⟨registry.records.map fun record => if record.endpoint = endpoint then change record else record⟩

/-! ## Notices -/

/-- A sign of life. The operators count for a new record only. -/
def upsert (registry : Registry) (address : Address) (port : UInt16) (operators : OperatorSet)
    (now : Int64) : Registry :=
  let endpoint := Endpoint.ofAddress address port
  if (registry.find? endpoint).isSome then
    registry.modify endpoint fun record => { record with lastSeen := now, online := true }
  else
    ⟨registry.records ++ [⟨address, port, operators, 0, true, now⟩]⟩

def markOffline (registry : Registry) (endpoint : Endpoint) : Registry :=
  registry.modify endpoint fun record => { record with online := false }

/-- Adds to the usage of a node, up to the largest word. -/
def addUsage (registry : Registry) (endpoint : Endpoint) (amount : UInt64) : Registry :=
  registry.modify endpoint fun record =>
    { record with usage := saturatingSum record.usage amount }

/-- Takes every expired node offline and counts them. -/
def sweep (registry : Registry) (now timeout : Int64) : Nat × Registry :=
  (registry.records.countP (·.isExpired now timeout),
    ⟨registry.records.map fun record =>
      if record.isExpired now timeout then { record with online := false } else record⟩)

/-! ## Questions -/

/-- The first of the records with the least usage. -/
def leastUsed? : List NodeRecord → Option NodeRecord
  | [] => none
  | record :: others =>
      match leastUsed? others with
      | none => some record
      | some best => if best.usage < record.usage then some best else some record

/-- The node that is given the next sub-operation with an operator. -/
def pick? (registry : Registry) (operator : Operator) : Option Endpoint :=
  (leastUsed? (registry.records.filter (·.serves operator))).map NodeRecord.endpoint

/-- The endpoints of the nodes that are online. -/
def onlineEndpoints (registry : Registry) : List Endpoint :=
  (registry.records.filter NodeRecord.online).map NodeRecord.endpoint

def snapshot (registry : Registry) (ceiling : UInt64) : Snapshot :=
  ⟨registry.onlineEndpoints, ceiling⟩

/-- The operators that some node can be given now. -/
def availableOperators (registry : Registry) : OperatorSet :=
  .ofList (Operator.all.filter fun operator => registry.records.any (·.serves operator))

end Registry

end ArithmeticCloud.Fleet
