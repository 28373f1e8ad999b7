import ArithmeticCloud.Billing.Accounts
import ArithmeticCloud.Fault

/-!
Contract: what can be wrong with settings.

Owns: violations, each of which names a setting and a code, and the rules that
several settings share.

Does not own: which rules apply to which settings.
-/

namespace ArithmeticCloud.Settings

open Billing

inductive ViolationCode where
  | range
  | length
  | zeroDuration
  | noOperators
  | duplicateUserName
deriving DecidableEq, Repr

def ViolationCode.text : ViolationCode → String
  | .range => "range"
  | .length => "length"
  | .zeroDuration => "zero_duration"
  | .noOperators => "no_operators"
  | .duplicateUserName => "duplicate_user_name"

structure Violation where
  path : String
  code : ViolationCode
deriving DecidableEq, Repr

namespace Violation

def text (violation : Violation) : String := violation.path ++ ": " ++ violation.code.text

/-- The path of a rule about the settings as a whole. -/
def wholePath : String := "__all__"

/-- A violation unless a rule holds. -/
def check (holds : Bool) (path : String) (code : ViolationCode) : List Violation :=
  if holds then [] else [⟨path, code⟩]

def ofPositive (path : String) (value : Nat) : List Violation := check (0 < value) path .range

def ofDuration (path : String) (duration : Duration) : List Violation :=
  check (duration != .zero) path .zeroDuration

/-- The problems of a user whose settings are at a path. -/
def ofUser (path : String) (user : User) : List Violation :=
  check (user.name != "") (path ++ "name") .length ++
    check (0 ≤ user.credits) (path ++ "credits") .range

end Violation

/-- The fault of refused settings. -/
def refusal (violations : List Violation) : Fault :=
  .settings ("\n".intercalate (violations.map Violation.text))

end ArithmeticCloud.Settings
