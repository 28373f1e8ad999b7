import ArithmeticCloud.Text.Numeral

/-!
Contract: decimal fractions.

Owns: the type, in which zero has a sign as every other fraction has; its order,
in which that sign does not count; scaling by powers of ten; and its text, which
has at least one place after the point and no zeros beyond the places that are
needed.

Does not own: where fractions are used.
-/

namespace ArithmeticCloud.Text

/-- `mantissa / 10 ^ places`, or the opposite if it is negative. -/
structure Decimal where
  negative : Bool
  mantissa : Nat
  places : Nat
deriving DecidableEq, Repr

namespace Decimal

def ofInt (value : Int) : Decimal := ⟨value < 0, value.natAbs, 0⟩

def zero : Decimal := ofInt 0

/-- How many units of the last place make one. -/
def unit (value : Decimal) : Nat := Nat.pow 10 value.places

/-- How many units of the last place there are. -/
def numerator (value : Decimal) : Int :=
  if value.negative then -value.mantissa else value.mantissa

/-- Whether one fraction is less than another, as numbers. -/
def less (left right : Decimal) : Bool :=
  left.numerator * right.unit < right.numerator * left.unit

/-- Moves the point to the right by a number of places, which may be negative. -/
def scaled (value : Decimal) (power : Int) : Decimal :=
  ⟨value.negative, value.mantissa * Nat.pow 10 (power - value.places).toNat,
    (value.places - power).toNat⟩

def text (value : Decimal) : Word :=
  let decimals := dropTrailingZeros (paddedDigits (value.mantissa % value.unit) value.places)
  (if value.negative then ['-'] else []) ++ digits (value.mantissa / value.unit) ++
    '.' :: if decimals.isEmpty then ['0'] else decimals

end Decimal

end ArithmeticCloud.Text
