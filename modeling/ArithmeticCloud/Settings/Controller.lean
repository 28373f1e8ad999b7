import ArithmeticCloud.Network.Socket
import ArithmeticCloud.Settings.Violation

/-!
Contract: the settings of a controller.

Owns: their defaults and what makes them valid.

Does not own: where they are read from.
-/

namespace ArithmeticCloud.Settings

open Billing Network

structure ControllerSettings where
  socket : Socket
  /-- The resource ceiling that is divided among the nodes. -/
  ceiling : UInt64
  /-- A node that has been silent for longer is taken to be offline. -/
  nodeTimeout : Duration
  checkPeriod : Duration
  maxSessions : UInt64
  users : List User
deriving DecidableEq, Repr

namespace ControllerSettings

/-- Sixteen clients are served for each processor. -/
def standard (processors : Nat) : ControllerSettings :=
  ⟨.anywhere, 1000, .ofMilliseconds 3000, .ofMilliseconds 1000, UInt64.ofNat (16 * processors), []⟩

/-- No two users have one name. -/
def namesDistinct (settings : ControllerSettings) : Bool :=
  decide (settings.users.map User.name).Nodup

/-- What is wrong, with single settings and with the settings as a whole. -/
def violations (settings : ControllerSettings) : List Violation :=
  Violation.ofPositive "rmax" settings.ceiling.toNat ++
    Violation.ofDuration "node_timeout" settings.nodeTimeout ++
    Violation.ofDuration "check_period" settings.checkPeriod ++
    Violation.ofPositive "max_sessions" settings.maxSessions.toNat ++
    (settings.users.mapIdx fun index user => Violation.ofUser s!"users[{index}]." user).flatten ++
    Violation.check settings.namesDistinct Violation.wholePath .duplicateUserName

end ControllerSettings

end ArithmeticCloud.Settings
