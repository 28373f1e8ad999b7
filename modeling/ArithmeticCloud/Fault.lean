import ArithmeticCloud.Time.Duration

/-!
Contract: why an operation failed.

Owns: the causes and the text of each.

Does not own: failures that are answers of the domain, such as a division by
zero or a refused login.
-/

namespace ArithmeticCloud

inductive Fault where
  /-- A socket or stream failed: refused, reset, unreachable. -/
  | transport (cause : String)
  /-- Settings were refused; the text lists what is wrong with them. -/
  | settings (problems : String)
  /-- The other side answered with something that is not part of the protocol. -/
  | protocol (detail : String)
  /-- The actor that owns some state has stopped. -/
  | actorGone (name : String)
  /-- A bounded wait expired. -/
  | timeout (limit : Duration)
  /-- A channel broke off or carried something that it may not carry. -/
  | channel (detail : String)
deriving DecidableEq, Repr

def Fault.message : Fault → String
  | .transport cause => "transport error: " ++ cause
  | .settings problems => "invalid configuration: " ++ problems
  | .protocol detail => "protocol violation: " ++ detail
  | .actorGone name => s!"actor {name} is no longer running"
  | .timeout limit => "timed out after " ++ String.ofList limit.text
  | .channel detail => "channel error: " ++ detail

end ArithmeticCloud
