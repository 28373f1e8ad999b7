import ArithmeticCloud.Arithmetic.Expression
import Mathlib.Data.Int.ModEq

/-!
Contract: operators on words in terms of exact arithmetic on integers.

Owns:
- the value that an operator has for integers, and the one that an expression has;
- sums, differences and products of words, which are the exact ones up to multiples of
  2⁶⁴, and that this determines a word;
- quotients of words, which are the exact ones cut off toward zero, but for one.

Does not own: how an expression is evaluated on nodes.
-/

namespace ArithmeticCloud

namespace Operator

/-- The value of an operator for integers. A quotient is cut off toward zero. -/
def exact : Operator → Int → Int → Int
  | .add, left, right => left + right
  | .sub, left, right => left - right
  | .mul, left, right => left * right
  | .div, left, right => left.tdiv right

/-- Whether the operator gives a word for two words. Of the exact values of sums,
differences and products only the residue matters. The one quotient that is too large for
a word is the least integer. -/
def Gives : Operator → Int64 → Int64 → Int64 → Prop
  | .div, left, right, result =>
      right ≠ 0 ∧
        result.toInt =
          if left.toInt = -2 ^ 63 ∧ right.toInt = -1 then -2 ^ 63
          else left.toInt.tdiv right.toInt
  | operator, left, right, result =>
      result.toInt ≡ operator.exact left.toInt right.toInt [ZMOD 2 ^ 64]

theorem bmod_modEq (value : Int) : value.bmod (2 ^ 64) ≡ value [ZMOD 2 ^ 64] :=
  Int.bmod_emod

/-- A word is determined by its residue. -/
theorem eq_of_modEq {left right : Int64} (same : left.toInt ≡ right.toInt [ZMOD 2 ^ 64]) :
    left = right := by
  have bound : (2 : Int) ^ 64 = ((2 ^ 64 : Nat) : Int) := rfl
  rw [bound] at same
  apply Int64.toInt_inj.mp
  calc left.toInt
      _ = left.toInt.bmod (2 ^ 64) := (Int64.toInt_bmod left).symm
      _ = right.toInt.bmod (2 ^ 64) := by
        rw [← Int.emod_bmod left.toInt, ← Int.emod_bmod right.toInt, same]
      _ = right.toInt := Int64.toInt_bmod right

theorem gives_div {left right : Int64} (nonzero : right ≠ 0) :
    Gives .div left right (left / right) := by
  refine ⟨nonzero, ?_⟩
  split
  · next overflows =>
      obtain ⟨least, negated⟩ := overflows
      rw [Int64.toInt_div, least, negated]
      decide
  · next fits =>
      by_cases least : left = Int64.minValue
      · subst least
        apply Int64.toInt_div_of_ne_right
        rintro rfl
        exact fits ⟨by decide, by decide⟩
      · exact Int64.toInt_div_of_ne_left left right least

/-- An operator answers with the word that it gives, except for a division by zero. -/
theorem apply_cases (operator : Operator) (left right : Int64) :
    (operator = .div ∧ right = 0 ∧ operator.apply left right = .divisionByZero) ∨
      ¬ (operator = .div ∧ right = 0) ∧
        ∃ result, operator.apply left right = .value result ∧ operator.Gives left right result := by
  cases operator with
  | add =>
      refine .inr ⟨by simp, left + right, rfl, ?_⟩
      show (left + right).toInt ≡ left.toInt + right.toInt [ZMOD 2 ^ 64]
      rw [Int64.toInt_add]
      exact bmod_modEq _
  | sub =>
      refine .inr ⟨by simp, left - right, rfl, ?_⟩
      show (left - right).toInt ≡ left.toInt - right.toInt [ZMOD 2 ^ 64]
      rw [Int64.toInt_sub]
      exact bmod_modEq _
  | mul =>
      refine .inr ⟨by simp, left * right, rfl, ?_⟩
      show (left * right).toInt ≡ left.toInt * right.toInt [ZMOD 2 ^ 64]
      rw [Int64.toInt_mul]
      exact bmod_modEq _
  | div =>
      by_cases zero : right = 0
      · exact .inl ⟨rfl, zero, if_pos zero⟩
      · exact .inr ⟨by simp [zero], left / right, if_neg zero, gives_div zero⟩

/-- Exact sums, differences and products respect residues. -/
theorem exact_modEq {operator : Operator} (undivided : operator ≠ .div) {left other : Int}
    (same : left ≡ other [ZMOD 2 ^ 64]) (right : Int) :
    operator.exact left right ≡ operator.exact other right [ZMOD 2 ^ 64] := by
  cases operator with
  | add => exact same.add_right right
  | sub => exact same.sub_right right
  | mul => exact same.mul_right right
  | div => exact absurd rfl undivided

end Operator

/-- The exact value, from left to right. -/
def Expression.exactValue (expression : Expression) : Int :=
  expression.steps.foldl (fun value step => step.1.exact value step.2.toInt)
    expression.first.toInt

end ArithmeticCloud
