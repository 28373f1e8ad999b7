import ArithmeticCloud.Proofs.Text.Numerals
import Mathlib.Data.Nat.Digits.Defs

/-!
Contract: which texts are numerals, and of which numbers.

Owns:
- a run of decimal digits and its number, by place values;
- unsigned and signed numerals, and that the readers accept exactly these, within the
  bounds of their words.

Does not own: the numerals that are written, which are some of them.
-/

namespace ArithmeticCloud.Text

/-! ## Runs of digits -/

/-- The places of a run of digits, from the units up. -/
def places (run : Word) : List Nat := run.reverse.map fun c => c.toNat - '0'.toNat

/-- The text is a run of decimal digits that stands for the number. -/
structure IsRun (run : Word) (value : Nat) : Prop where
  nonempty : run ≠ []
  digits : ∀ c ∈ run, c.isDigit = true
  value : Nat.ofDigits 10 (places run) = value

theorem ofDigits_places_cons (c : Char) (rest : Word) :
    Nat.ofDigits 10 (places (c :: rest)) =
      (c.toNat - '0'.toNat) * 10 ^ rest.length + Nat.ofDigits 10 (places rest) := by
  unfold places
  rw [List.reverse_cons, List.map_append, Nat.ofDigits_append, List.length_map,
    List.length_reverse, List.map_singleton, Nat.ofDigits_singleton]
  ring

theorem digitValue?_eq (c : Char) :
    digitValue? c = if c.isDigit = true then some (c.toNat - '0'.toNat) else none := by
  have same : ('0' ≤ c ∧ c ≤ '9') ↔ c.isDigit = true := by
    rw [Char.isDigit, Bool.and_eq_true, decide_eq_true_eq, decide_eq_true_eq]
    exact Iff.rfl
  unfold digitValue?
  rw [if_congr same rfl rfl]
  rfl

theorem appendDigits?_eq_some_iff {run : Word} {start value : Nat} :
    appendDigits? start run = some value ↔
      (∀ c ∈ run, c.isDigit = true) ∧
        start * 10 ^ run.length + Nat.ofDigits 10 (places run) = value := by
  induction run generalizing start with
  | nil => simp [appendDigits?, places]
  | cons c rest inductionHypothesis =>
      rw [appendDigits?, digitValue?_eq, List.forall_mem_cons, ofDigits_places_cons]
      by_cases digit : c.isDigit = true
      · rw [if_pos digit]
        dsimp only
        rw [inductionHypothesis]
        have shifted : (10 * start + (c.toNat - '0'.toNat)) * 10 ^ rest.length =
            start * 10 ^ (c :: rest).length + (c.toNat - '0'.toNat) * 10 ^ rest.length := by
          rw [List.length_cons, pow_succ]
          ring
        rw [shifted, Nat.add_assoc]
        simp [digit]
      · rw [if_neg digit]
        simp [digit]

theorem ofDigits?_eq_some_iff {run : Word} {value : Nat} :
    ofDigits? run = some value ↔ IsRun run value := by
  cases run with
  | nil =>
      constructor
      · intro read
        cases read
      · intro isRun
        exact absurd rfl isRun.nonempty
  | cons c rest =>
      rw [ofDigits?, appendDigits?_eq_some_iff, Nat.zero_mul, Nat.zero_add]
      exact ⟨fun ⟨digits, value⟩ => ⟨by simp, digits, value⟩,
        fun isRun => ⟨isRun.digits, isRun.value⟩⟩

theorem not_isRun_cons {c : Char} (notDigit : c.isDigit = false) (rest : Word) (value : Nat) :
    ¬ IsRun (c :: rest) value := by
  intro isRun
  have digit := isRun.digits c List.mem_cons_self
  rw [notDigit] at digit
  cases digit

/-! ## Numerals -/

/-- A run of digits, with or without a plus sign in front. -/
def IsNatural (text : Word) (value : Nat) : Prop :=
  ∃ run, IsRun run value ∧ (text = run ∨ text = '+' :: run)

/-- A run of digits, with or without a sign in front. -/
def IsInteger (text : Word) (value : Int) : Prop :=
  ∃ run magnitude, IsRun run magnitude ∧
    ((text = run ∨ text = '+' :: run) ∧ value = magnitude ∨
      text = '-' :: run ∧ value = -magnitude)

theorem natural?_eq_some_iff {text : Word} {value : Nat} :
    natural? text = some value ↔ IsNatural text value := by
  unfold natural? IsNatural
  split
  · next rest =>
      rw [ofDigits?_eq_some_iff]
      constructor
      · intro isRun
        exact ⟨rest, isRun, .inr rfl⟩
      · rintro ⟨run, isRun, rfl | same⟩
        · exact absurd isRun (not_isRun_cons (by decide) rest value)
        · obtain ⟨-, rfl⟩ := List.cons.inj same
          exact isRun
  · next unsigned =>
      rw [ofDigits?_eq_some_iff]
      constructor
      · intro isRun
        exact ⟨text, isRun, .inl rfl⟩
      · rintro ⟨run, isRun, rfl | same⟩
        · exact isRun
        · exact absurd same (unsigned run)

theorem integer?_eq_some_iff {text : Word} {value : Int} :
    integer? text = some value ↔ IsInteger text value := by
  unfold integer? IsInteger
  split
  · next rest =>
      rw [Option.map_eq_some_iff]
      constructor
      · rintro ⟨magnitude, read, rfl⟩
        exact ⟨rest, magnitude, ofDigits?_eq_some_iff.mp read, .inl ⟨.inr rfl, rfl⟩⟩
      · rintro ⟨run, magnitude, isRun, ⟨rfl | same, rfl⟩ | ⟨same, -⟩⟩
        · exact absurd isRun (not_isRun_cons (by decide) rest magnitude)
        · obtain ⟨-, rfl⟩ := List.cons.inj same
          exact ⟨magnitude, ofDigits?_eq_some_iff.mpr isRun, rfl⟩
        · exact absurd (List.cons.inj same).1 (by decide)
  · next rest =>
      rw [Option.map_eq_some_iff]
      constructor
      · rintro ⟨magnitude, read, rfl⟩
        exact ⟨rest, magnitude, ofDigits?_eq_some_iff.mp read, .inr ⟨rfl, rfl⟩⟩
      · rintro ⟨run, magnitude, isRun, ⟨rfl | same, -⟩ | ⟨same, rfl⟩⟩
        · exact absurd isRun (not_isRun_cons (by decide) rest magnitude)
        · exact absurd (List.cons.inj same).1 (by decide)
        · obtain ⟨-, rfl⟩ := List.cons.inj same
          exact ⟨magnitude, ofDigits?_eq_some_iff.mpr isRun, rfl⟩
  · next notPlus notMinus =>
      rw [Option.map_eq_some_iff]
      constructor
      · rintro ⟨magnitude, read, rfl⟩
        exact ⟨text, magnitude, ofDigits?_eq_some_iff.mp read, .inl ⟨.inl rfl, rfl⟩⟩
      · rintro ⟨run, magnitude, isRun, ⟨rfl | same, rfl⟩ | ⟨same, -⟩⟩
        · exact ⟨magnitude, ofDigits?_eq_some_iff.mpr isRun, rfl⟩
        · exact absurd same (notPlus run)
        · exact absurd same (notMinus run)

/-! ## Words -/

theorem naturalBelow?_eq_some_iff {bound value : Nat} {text : Word} :
    naturalBelow? bound text = some value ↔ IsNatural text value ∧ value < bound := by
  unfold naturalBelow?
  rw [← natural?_eq_some_iff]
  cases read : natural? text with
  | none => simp
  | some found =>
      dsimp only
      split
      · next below =>
          constructor
          · intro same
            obtain rfl := Option.some.inj same
            exact ⟨rfl, below⟩
          · exact And.left
      · next above =>
          constructor
          · intro same
            cases same
          · rintro ⟨same, below⟩
            obtain rfl := Option.some.inj same
            exact absurd below above

theorem word16?_eq_some_iff {text : Word} {value : UInt16} :
    word16? text = some value ↔ IsNatural text value.toNat := by
  unfold word16?
  rw [Option.map_eq_some_iff]
  constructor
  · rintro ⟨read, found, rfl⟩
    obtain ⟨isNatural, below⟩ := naturalBelow?_eq_some_iff.mp found
    rwa [UInt16.toNat_ofNat_of_lt' below]
  · intro isNatural
    exact ⟨value.toNat, naturalBelow?_eq_some_iff.mpr ⟨isNatural, value.toNat_lt⟩,
      UInt16.ofNat_toNat⟩

theorem word64?_eq_some_iff {text : Word} {value : UInt64} :
    word64? text = some value ↔ IsNatural text value.toNat := by
  unfold word64?
  rw [Option.map_eq_some_iff]
  constructor
  · rintro ⟨read, found, rfl⟩
    obtain ⟨isNatural, below⟩ := naturalBelow?_eq_some_iff.mp found
    rwa [UInt64.toNat_ofNat_of_lt' below]
  · intro isNatural
    exact ⟨value.toNat, naturalBelow?_eq_some_iff.mpr ⟨isNatural, value.toNat_lt⟩,
      UInt64.ofNat_toNat⟩

theorem int64?_eq_some_iff {text : Word} {value : Int64} :
    int64? text = some value ↔ IsInteger text value.toInt := by
  unfold int64?
  rw [← integer?_eq_some_iff]
  cases read : integer? text with
  | none => simp
  | some found =>
      dsimp only
      split
      · next within =>
          have greatest : Int64.maxValue.toInt = 2 ^ 63 - 1 := by decide
          have kept : (Int64.ofInt found).toInt = found :=
            Int64.toInt_ofInt_of_le within.1 (by omega)
          constructor
          · intro same
            obtain rfl := Option.some.inj same
            rw [kept]
          · intro same
            obtain rfl := Option.some.inj same
            rw [Int64.ofInt_toInt]
      · next beyond =>
          constructor
          · intro same
            cases same
          · intro same
            obtain rfl := Option.some.inj same
            exact absurd ⟨value.minValue_le_toInt, value.toInt_le⟩ beyond

end ArithmeticCloud.Text
