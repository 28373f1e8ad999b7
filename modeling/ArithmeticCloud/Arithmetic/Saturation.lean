/-!
Contract: sums of fixed-width words that stop at a bound of the word.

Owns: saturating addition of unsigned and of signed 64-bit words, with their
values as numbers.

Does not own: wrapping arithmetic, which is that of `Operator.apply`.
-/

namespace ArithmeticCloud

/-- The sum, or the largest word if the sum is larger. -/
def saturatingSum (left right : UInt64) : UInt64 :=
  UInt64.ofNat (min (left.toNat + right.toNat) (UInt64.size - 1))

/-- The number in the range of a signed word that is closest to `value`. -/
def clampInt64 (value : Int) : Int :=
  max Int64.minValue.toInt (min value Int64.maxValue.toInt)

/-- The sum, or the bound of the word that the sum is beyond. -/
def saturatingSignedSum (left right : Int64) : Int64 :=
  Int64.ofInt (clampInt64 (left.toInt + right.toInt))

theorem toNat_saturatingSum (left right : UInt64) :
    (saturatingSum left right).toNat =
      min (left.toNat + right.toNat) (UInt64.size - 1) := by
  unfold saturatingSum
  rw [UInt64.toNat_ofNat']
  exact Nat.mod_eq_of_lt (by simp only [UInt64.size]; omega)

theorem toInt_saturatingSignedSum (left right : Int64) :
    (saturatingSignedSum left right).toInt = clampInt64 (left.toInt + right.toInt) := by
  have least : Int64.minValue.toInt = -2 ^ 63 := by decide
  have greatest : Int64.maxValue.toInt = 2 ^ 63 - 1 := by decide
  unfold saturatingSignedSum clampInt64
  rw [least, greatest]
  exact Int64.toInt_ofInt_of_le (by omega) (by omega)

end ArithmeticCloud
