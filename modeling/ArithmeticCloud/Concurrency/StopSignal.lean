/-!
Contract: cooperative stopping.

Owns: the switch that an owner holds, and what every signal made from it shows:
whether a stop was requested, and whether waiting for a stop is over. Releasing
the switch without a request ends the waiting too, but does not count as a
request.

Does not own: the loops that look at a signal.
-/

namespace ArithmeticCloud.Concurrency

structure StopSwitch where
  requested : Bool
  released : Bool
deriving DecidableEq, Repr

namespace StopSwitch

def fresh : StopSwitch := ⟨false, false⟩

/-- The owner requests a stop. After a release there is no owner. -/
def stop (switch : StopSwitch) : StopSwitch :=
  if switch.released then switch else { switch with requested := true }

/-- The owner drops the switch. -/
def release (switch : StopSwitch) : StopSwitch := { switch with released := true }

/-- What a signal shows. -/
def isStopped (switch : StopSwitch) : Bool := switch.requested

/-- Whether waiting for a stop is over. -/
def resolves (switch : StopSwitch) : Bool := switch.requested || switch.released

end StopSwitch

end ArithmeticCloud.Concurrency
