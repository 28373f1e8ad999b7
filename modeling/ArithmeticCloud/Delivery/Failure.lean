import ArithmeticCloud.Network.AddressText
import ArithmeticCloud.Text.Decimal
import ArithmeticCloud.Time.Duration

/-!
Contract: datagrams that are lost or late on purpose.

Owns: the probability of a loss, the bounds of a delay, their choice by
destination, and what becomes of one datagram once the random choices are made.

Does not own: the source of randomness, and waiting.
-/

namespace ArithmeticCloud.Delivery

open Network Text

/-- Whether datagrams pass through failure injection. -/
inductive FailureMode where
  | packet
  | none
deriving DecidableEq, Repr

def FailureMode.title : FailureMode → String
  | .packet => "Packet"
  | .none => "None"

structure FailureConfig where
  /-- The probability that a datagram is never sent. -/
  dropProbability : Decimal
  /-- The bounds of a random delay. -/
  delay : Option (Duration × Duration)
deriving DecidableEq, Repr

inductive Fate where
  | lost
  | sent
  /-- Sent after a number of milliseconds between two bounds. -/
  | late (least greatest : Nat)
deriving DecidableEq, Repr

namespace FailureConfig

def reliable : FailureConfig := ⟨.zero, .none⟩

/-- The fate of a datagram for which `draw` was drawn, a fraction of at least zero
and less than one. Bounds in the wrong order count as equal to the first. -/
def fate (config : FailureConfig) (draw : Decimal) : Fate :=
  if draw.less config.dropProbability then
    .lost
  else
    match config.delay with
    | none => .sent
    | some (first, second) =>
        .late first.milliseconds (max first.milliseconds second.milliseconds)

end FailureConfig

structure FailureMap where
  clusterWide : FailureConfig
  /-- Entries for single destinations; the last one for a destination counts. -/
  nodeWide : List (Endpoint × FailureConfig)
deriving DecidableEq, Repr

namespace FailureMap

def reliable : FailureMap := ⟨.reliable, []⟩

def get (failures : FailureMap) (destination : Endpoint) : FailureConfig :=
  (failures.nodeWide.reverse.lookup destination).getD failures.clusterWide

end FailureMap

def fateOf (mode : FailureMode) (failures : FailureMap) (destination : Endpoint)
    (draw : Decimal) : Fate :=
  match mode with
  | .none => .sent
  | .packet => (failures.get destination).fate draw

end ArithmeticCloud.Delivery
