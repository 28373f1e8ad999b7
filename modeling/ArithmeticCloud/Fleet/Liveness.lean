import ArithmeticCloud.Fleet.Registry
import ArithmeticCloud.Time.Duration

/-!
Contract: one periodic check for nodes that have fallen silent.

Owns: the timeout of a check, which is the whole milliseconds of a duration as a
signed 64-bit word.

Does not own: the period of the checks.
-/

namespace ArithmeticCloud.Fleet

/-- The timeout in milliseconds. A count beyond the word wraps around. -/
def sweepTimeout (nodeTimeout : Duration) : Int64 := Int64.ofNat nodeTimeout.milliseconds

/-- One check at a time in milliseconds. -/
def Registry.checkLiveness (registry : Registry) (nodeTimeout : Duration) (now : Int64) :
    Nat × Registry :=
  registry.sweep now (sweepTimeout nodeTimeout)

end ArithmeticCloud.Fleet
