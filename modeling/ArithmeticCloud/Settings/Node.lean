import ArithmeticCloud.Arithmetic.OperatorSet
import ArithmeticCloud.Delivery.Failure
import ArithmeticCloud.Network.Socket
import ArithmeticCloud.Settings.Violation

/-!
Contract: the settings of a node.

Owns: their defaults and what makes them valid.

Does not own: where they are read from.
-/

namespace ArithmeticCloud.Settings

open Delivery Network

structure NodeSettings where
  /-- Where peers and the controller connect, and where datagrams leave from. -/
  socket : Socket
  /-- Where the controller receives datagrams. -/
  controller : Socket
  operators : OperatorSet
  /-- The least resource share that the node accepts. -/
  minimum : UInt64
  /-- How often a joined node gives a sign of life. -/
  alivePeriod : Duration
  /-- How long to wait before asking for the membership again. -/
  helloRetry : Duration
  /-- How long to wait for a peer's vote; without a limit, forever. -/
  shareTimeout : Option Duration
  /-- How many evaluated sub-operations are remembered. -/
  historyCapacity : UInt64
  failureMode : FailureMode
  failureMap : FailureMap
deriving DecidableEq, Repr

namespace NodeSettings

def standard : NodeSettings :=
  ⟨.anywhere, .localhost 0 0, .all, 0, .ofMilliseconds 1000, .ofSeconds 2, some (.ofSeconds 5),
    100, .none, .reliable⟩

def violations (settings : NodeSettings) : List Violation :=
  Violation.check (!settings.operators.isEmpty) "operators" .noOperators ++
    Violation.ofDuration "alive_period" settings.alivePeriod ++
    Violation.ofDuration "hello_retry" settings.helloRetry ++
    (settings.shareTimeout.map (Violation.ofDuration "share_timeout")).getD [] ++
    Violation.ofPositive "history_capacity" settings.historyCapacity.toNat

end NodeSettings

end ArithmeticCloud.Settings
