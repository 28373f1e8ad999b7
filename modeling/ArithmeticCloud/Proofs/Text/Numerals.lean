import ArithmeticCloud.Proofs.Text.Words
import ArithmeticCloud.Text.Numeral
import Mathlib.Algebra.Ring.Nat

/-!
Contract: numerals that are written can be read back.

Owns: reading the digits of a natural number, and from that the numerals of
words and of signed words; the characters of numerals, their number and those at the
front.

Does not own: which other texts are numerals.
-/

namespace ArithmeticCloud.Text

/-! ## Digits -/

theorem digitValue?_digit {value : Nat} (small : value < 10) :
    digitValue? (digit value) = some value := by
  have every : ∀ value < 10, digitValue? (digit value) = some value := by decide
  exact every value small

theorem mem_digits {value : Nat} {c : Char} (member : c ∈ digits value) :
    ∃ place < 10, c = digit place := by
  induction value using digits.induct with
  | case1 value small =>
      rw [digits_of_lt small, List.mem_singleton] at member
      exact ⟨value, small, member⟩
  | case2 value large inductionHypothesis =>
      rw [digits_of_le (by omega), List.mem_append, List.mem_singleton] at member
      rcases member with earlier | last
      · exact inductionHypothesis earlier
      · exact ⟨value % 10, Nat.mod_lt value (by decide), last⟩

theorem isBlank_of_mem_digits {value : Nat} {c : Char} (member : c ∈ digits value) :
    isBlank c = false := by
  rcases mem_digits member with ⟨place, small, rfl⟩
  have every : ∀ place < 10, isBlank (digit place) = false := by decide
  exact every place small

/-- Digits have no sign in front. -/
theorem digits_eq_cons (value : Nat) :
    ∃ first rest, digits value = first :: rest ∧ first ≠ '+' ∧ first ≠ '-' := by
  cases written : digits value with
  | nil => exact absurd written (digits_ne_nil value)
  | cons first rest =>
      have member : first ∈ digits value := by
        rw [written]
        exact List.mem_cons_self
      rcases mem_digits member with ⟨place, small, same⟩
      have every : ∀ place < 10, digit place ≠ '+' ∧ digit place ≠ '-' := by decide
      exact ⟨first, rest, rfl, same ▸ every place small⟩

theorem length_digits_le {value places : Nat} (positive : 0 < places) (below : value < 10 ^ places) :
    (digits value).length ≤ places := by
  induction value using digits.induct generalizing places with
  | case1 value small =>
      rw [digits_of_lt small, List.length_singleton]
      exact positive
  | case2 value large inductionHypothesis =>
      obtain ⟨fewer, rfl⟩ := Nat.exists_eq_succ_of_ne_zero (Nat.ne_of_gt positive)
      have several : 0 < fewer := by
        rcases Nat.eq_zero_or_pos fewer with rfl | several
        · omega
        · exact several
      have less : value / 10 < 10 ^ fewer := by
        rw [pow_succ] at below
        omega
      rw [digits_of_le (by omega), List.length_append, List.length_singleton]
      exact Nat.succ_le_succ (inductionHypothesis several less)

/-- The digits at the front are those of a quotient by a power of ten. -/
theorem dropLast_digits {value missing : Nat} (fewerThanAll : missing < (digits value).length) :
    (digits value).take ((digits value).length - missing) = digits (value / 10 ^ missing) := by
  induction missing generalizing value with
  | zero => rw [Nat.sub_zero, List.take_length, pow_zero, Nat.div_one]
  | succ fewer inductionHypothesis =>
      have large : 10 ≤ value := by
        by_contra small
        rw [digits_of_lt (by omega), List.length_singleton] at fewerThanAll
        omega
      rw [digits_of_le large, List.length_append, List.length_singleton] at fewerThanAll ⊢
      rw [Nat.add_sub_add_right, List.take_append_of_le_length (by omega),
        inductionHypothesis (by omega), Nat.div_div_eq_div_mul, pow_succ']

theorem unbroken_digits (value : Nat) : Unbroken (digits value) :=
  ⟨digits_ne_nil value, fun _ member => isBlank_of_mem_digits member⟩

/-! ## Reading digits -/

theorem appendDigits?_append (value : Nat) (left right : Word) :
    appendDigits? value (left ++ right) =
      (appendDigits? value left).bind fun read => appendDigits? read right := by
  induction left generalizing value with
  | nil => rfl
  | cons c rest inductionHypothesis =>
      simp only [List.cons_append, appendDigits?]
      cases digitValue? c with
      | none => rfl
      | some next => exact inductionHypothesis (10 * value + next)

theorem appendDigits?_digits (value : Nat) : appendDigits? 0 (digits value) = some value := by
  induction value using digits.induct with
  | case1 value small =>
      rw [digits_of_lt small, appendDigits?, digitValue?_digit small]
      simp [appendDigits?]
  | case2 value large inductionHypothesis =>
      rw [digits_of_le (by omega), appendDigits?_append, inductionHypothesis, Option.bind_some,
        appendDigits?, digitValue?_digit (Nat.mod_lt value (by decide))]
      simp only [appendDigits?, Option.some.injEq]
      exact Nat.div_add_mod value 10

theorem ofDigits?_digits (value : Nat) : ofDigits? (digits value) = some value := by
  rcases digits_eq_cons value with ⟨first, rest, written, -, -⟩
  have read := appendDigits?_digits value
  rw [written] at read ⊢
  exact read

theorem natural?_digits (value : Nat) : natural? (digits value) = some value := by
  have read := ofDigits?_digits value
  rcases digits_eq_cons value with ⟨first, rest, written, unsigned, -⟩
  rw [written] at read ⊢
  unfold natural?
  split
  · next same => exact absurd (List.cons.inj same).1 unsigned
  · exact read

/-! ## Words -/

theorem naturalBelow?_digits {bound value : Nat} (below : value < bound) :
    naturalBelow? bound (digits value) = some value := by
  simp only [naturalBelow?, natural?_digits, if_pos below]

theorem word16?_ofWord16 (value : UInt16) : word16? (ofWord16 value) = some value := by
  unfold word16? ofWord16
  rw [naturalBelow?_digits value.toNat_lt, Option.map_some, UInt16.ofNat_toNat]

theorem word32?_ofWord32 (value : UInt32) : word32? (ofWord32 value) = some value := by
  unfold word32? ofWord32
  rw [naturalBelow?_digits value.toNat_lt, Option.map_some, UInt32.ofNat_toNat]

theorem word64?_ofWord64 (value : UInt64) : word64? (ofWord64 value) = some value := by
  unfold word64? ofWord64
  rw [naturalBelow?_digits value.toNat_lt, Option.map_some, UInt64.ofNat_toNat]

/-! ## Signed numerals -/

theorem integer?_numeral (value : Int) : integer? (numeral value) = some value := by
  have read := ofDigits?_digits value.natAbs
  rcases digits_eq_cons value.natAbs with ⟨first, rest, written, notPlus, notMinus⟩
  unfold numeral
  by_cases negative : value < 0
  · rw [if_pos negative]
    simp only [integer?, read, Option.map_some, Option.some.injEq]
    have magnitude : Int.ofNat value.natAbs = -value := Int.ofNat_natAbs_of_nonpos (by omega)
    rw [magnitude, Int.neg_neg]
  · rw [if_neg negative]
    rw [written] at read ⊢
    unfold integer?
    split
    · next same => exact absurd (List.cons.inj same).1 notPlus
    · next same => exact absurd (List.cons.inj same).1 notMinus
    · rw [read, Option.map_some]
      have magnitude : Int.ofNat value.natAbs = value := Int.natAbs_of_nonneg (by omega)
      rw [magnitude]

theorem int64?_ofInt64 (value : Int64) : int64? (ofInt64 value) = some value := by
  have bounds : Int64.minValue.toInt ≤ value.toInt ∧ value.toInt ≤ Int64.maxValue.toInt :=
    ⟨value.minValue_le_toInt, value.toInt_le⟩
  simp only [int64?, ofInt64, integer?_numeral, if_pos bounds, Int64.ofInt_toInt]

theorem unbroken_numeral (value : Int) : Unbroken (numeral value) := by
  rcases unbroken_digits value.natAbs with ⟨nonempty, letters⟩
  unfold numeral
  split
  · refine ⟨by simp, fun c member => ?_⟩
    rcases List.mem_cons.mp member with rfl | later
    · decide
    · exact letters c later
  · exact ⟨nonempty, letters⟩

end ArithmeticCloud.Text
