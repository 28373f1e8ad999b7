import ArithmeticCloud.Network.AddressText
import ArithmeticCloud.Proofs.Text.Numerals

/-!
Contract: numbers inside addresses, and version 4 addresses, are read back.

Owns:
- the longest run of digits in front of a text that does not go on with one;
- decimal numbers and hexadecimal groups as they are written;
- four octets with dots between them, and texts that are no such thing because no dot
  follows their first number.

Does not own: what stands around an address.
-/

namespace ArithmeticCloud.Network

open Text

namespace NumberForm

/-- The text does not go on with a digit of the form. -/
def Ends (form : NumberForm) (rest : List Char) : Prop :=
  ∀ c ∈ rest.head?, form.isDigit c = false

theorem ends_nil (form : NumberForm) : form.Ends [] := by
  intro c member
  cases member

theorem ends_cons {form : NumberForm} {c : Char} (other : form.isDigit c = false)
    (rest : List Char) : form.Ends (c :: rest) := by
  intro first member
  obtain rfl := Option.some.inj member
  exact other

/-- The run of digits in front of a text is read if it is a number of the form. -/
theorem read?_append {form : NumberForm} {run rest : List Char}
    (digits : ∀ c ∈ run, form.isDigit c = true) (ends : form.Ends rest)
    (accepted : form.accepts run = true) :
    form.read? (run ++ rest) = some (form.value run, rest) := by
  obtain ⟨front, back⟩ := run_append digits ends
  simp only [read?, front, back, if_pos accepted]

/-- Nothing is read where there is no digit. -/
theorem read?_of_ends {form : NumberForm} {rest : List Char} (ends : form.Ends rest) :
    form.read? rest = none := by
  have empty : rest.takeWhile form.isDigit = [] :=
    (run_append (List.forall_mem_nil _) ends).1
  simp [read?, empty, accepts]

/-! ## Decimal numbers -/

section Decimal

variable {form : NumberForm} (decimal : form.base = 10)
include decimal

theorem isDigit_of_mem_digits {value : Nat} {c : Char} (member : c ∈ digits value) :
    form.isDigit c = true := by
  obtain ⟨place, small, rfl⟩ := mem_digits member
  have every : ∀ place < 10, (digitValueIn? 10 (digit place)).isSome = true := by decide
  unfold isDigit
  rw [decimal]
  exact every place small

theorem value_digits (value : Nat) : form.value (digits value) = value := by
  have last : ∀ place < 10, (digitValueIn? 10 (digit place)).getD 0 = place := by decide
  unfold NumberForm.value
  rw [decimal]
  induction value using digits.induct with
  | case1 value small =>
      rw [digits_of_lt small, List.foldl_cons, List.foldl_nil, last value small]
      omega
  | case2 value large inductionHypothesis =>
      rw [digits_of_le (by omega), List.foldl_append, inductionHypothesis, List.foldl_cons,
        List.foldl_nil, last _ (Nat.mod_lt value (by decide))]
      omega

end Decimal

end NumberForm

/-- A number without leading zeros starts with a zero only if it is zero. -/
theorem head?_digits_ne_zero {value : Nat} (positive : 0 < value) :
    (digits value).head? ≠ some '0' := by
  induction value using digits.induct with
  | case1 value small =>
      have every : ∀ place < 10, 0 < place → digit place ≠ '0' := by decide
      rw [digits_of_lt small, List.head?_singleton]
      intro same
      exact every value small positive (Option.some.inj same)
  | case2 value large inductionHypothesis =>
      have earlier := inductionHypothesis (by omega)
      rw [digits_of_le (by omega), List.head?_append]
      cases written : digits (value / 10) with
      | nil => exact absurd written (digits_ne_nil _)
      | cons first rest =>
          rw [written] at earlier
          exact earlier

theorem accepts_octet (octet : UInt8) : octetForm.accepts (digits octet.toNat) = true := by
  have below := octet.toNat_lt
  have short : (digits octet.toNat).length ≤ 3 := length_digits_le (by decide) (by omega)
  have value : octetForm.value (digits octet.toNat) = octet.toNat :=
    NumberForm.value_digits rfl octet.toNat
  have noLeadingZero : (digits octet.toNat).length ≤ 1 ∨
      (digits octet.toNat).head? ≠ some '0' := by
    by_cases zero : octet.toNat = 0
    · left
      rw [zero, digits_of_lt (by decide)]
      decide
    · right
      exact head?_digits_ne_zero (by omega)
  unfold NumberForm.accepts
  rw [value]
  simp [octetForm, digits_ne_nil, short, noLeadingZero]
  exact decide_eq_true below

theorem accepts_unlimited {bound value : Nat} (below : value < bound) :
    (NumberForm.mk 10 none true bound).accepts (digits value) = true := by
  have same : (NumberForm.mk 10 none true bound).value (digits value) = value :=
    NumberForm.value_digits rfl value
  unfold NumberForm.accepts
  rw [same]
  simp [digits_ne_nil, below]

theorem read?_digits {form : NumberForm} (decimal : form.base = 10) {value : Nat}
    (accepted : form.accepts (digits value) = true) {rest : List Char} (ends : form.Ends rest) :
    form.read? (digits value ++ rest) = some (value, rest) := by
  have digitsOnly : ∀ c ∈ digits value, form.isDigit c = true :=
    fun _ => NumberForm.isDigit_of_mem_digits decimal
  rw [NumberForm.read?_append digitsOnly ends accepted, NumberForm.value_digits decimal]

/-! ## Version 4 -/

theorem expect?_cons (c : Char) (rest : List Char) : expect? c (c :: rest) = some rest :=
  if_pos rfl

theorem expect?_cons_of_ne {c first : Char} (other : first ≠ c) (rest : List Char) :
    expect? c (first :: rest) = none :=
  if_neg other

/-- The octets of an address are read up to what ends the last one. -/
theorem readIPv4?_text_append (address : IPv4) {rest : List Char} (ends : octetForm.Ends rest) :
    readIPv4? (address.text ++ rest) = some (address, rest) := by
  have octet (value : UInt8) (others : List Char) (ends : octetForm.Ends others) :
      octetForm.read? (digits value.toNat ++ others) = some (value.toNat, others) :=
    read?_digits rfl (accepts_octet value) ends
  have dot (others : List Char) : octetForm.Ends ('.' :: others) :=
    NumberForm.ends_cons (by decide) others
  simp only [readIPv4?, IPv4.text, List.append_assoc, List.cons_append, octet _ _ (dot _),
    octet _ _ ends, expect?_cons, Option.bind_eq_bind, Option.bind_some, Option.pure_def,
    UInt8.ofNat_toNat]

/-- A text is no version 4 address if no dot follows its first number. -/
theorem readIPv4?_eq_none {text : List Char}
    (noDot : (text.dropWhile octetForm.isDigit).head? ≠ some '.') : readIPv4? text = none := by
  unfold readIPv4? NumberForm.read?
  by_cases accepted : octetForm.accepts (text.takeWhile octetForm.isDigit) = true
  · rw [if_pos accepted]
    simp only [Option.bind_eq_bind, Option.bind_some]
    cases left : text.dropWhile octetForm.isDigit with
    | nil => rfl
    | cons first others =>
        have notDot : first ≠ '.' := by
          rintro rfl
          exact noDot (congrArg List.head? left)
        rw [expect?_cons_of_ne notDot]
        rfl
  · rw [if_neg accepted]
    rfl

theorem readIPv4?_of_ends {text : List Char} (ends : octetForm.Ends text) :
    readIPv4? text = none := by
  unfold readIPv4?
  rw [NumberForm.read?_of_ends ends]
  rfl

/-! ## Hexadecimal groups -/

theorem digitValueIn?_hexDigit {value : Nat} (small : value < 16) :
    digitValueIn? 16 (hexDigit value) = some value := by
  have every : ∀ value < 16, digitValueIn? 16 (hexDigit value) = some value := by decide
  exact every value small

/-- The digits of a group, most significant first. -/
def groupDigits (value : Nat) : List Nat :=
  if value < 0x10 then [value]
  else if value < 0x100 then [value / 0x10, value % 0x10]
  else if value < 0x1000 then [value / 0x100, value / 0x10 % 0x10, value % 0x10]
  else [value / 0x1000, value / 0x100 % 0x10, value / 0x10 % 0x10, value % 0x10]

theorem groupText_eq (group : UInt16) :
    groupText group = (groupDigits group.toNat).map hexDigit := by
  unfold groupText groupDigits
  dsimp only
  split
  · rfl
  · split
    · rfl
    · split <;> rfl

theorem groupDigits_small {value : Nat} (below : value < 65536) :
    ∀ place ∈ groupDigits value, place < 16 := by
  intro place member
  unfold groupDigits at member
  split at member
  · simp only [List.mem_cons, List.not_mem_nil, or_false] at member
    omega
  · split at member
    · simp only [List.mem_cons, List.not_mem_nil, or_false] at member
      omega
    · split at member
      · simp only [List.mem_cons, List.not_mem_nil, or_false] at member
        omega
      · simp only [List.mem_cons, List.not_mem_nil, or_false] at member
        omega

theorem foldl_groupDigits (value : Nat) :
    (groupDigits value).foldl (fun total place => 16 * total + place) 0 = value := by
  unfold groupDigits
  split
  · simp
  · split
    · simp only [List.foldl_cons, List.foldl_nil]
      omega
    · split
      · simp only [List.foldl_cons, List.foldl_nil]
        omega
      · simp only [List.foldl_cons, List.foldl_nil]
        omega

theorem length_groupDigits (value : Nat) :
    0 < (groupDigits value).length ∧ (groupDigits value).length ≤ 4 := by
  unfold groupDigits
  split
  · simp
  · split
    · simp
    · split <;> simp

theorem mem_groupText {group : UInt16} {c : Char} (member : c ∈ groupText group) :
    ∃ place < 16, c = hexDigit place := by
  rw [groupText_eq] at member
  obtain ⟨place, digit, rfl⟩ := List.mem_map.mp member
  exact ⟨place, groupDigits_small group.toNat_lt place digit, rfl⟩

theorem groupText_ne_nil (group : UInt16) : groupText group ≠ [] := by
  rw [groupText_eq, Ne, List.map_eq_nil_iff]
  exact List.ne_nil_of_length_pos (length_groupDigits group.toNat).1

theorem value_groupText (group : UInt16) : groupForm.value (groupText group) = group.toNat := by
  have small := groupDigits_small group.toNat_lt
  have folded (places : List Nat) (small : ∀ place ∈ places, place < 16) (total : Nat) :
      (places.map hexDigit).foldl
          (fun total c => 16 * total + (digitValueIn? 16 c).getD 0) total =
        places.foldl (fun total place => 16 * total + place) total := by
    induction places generalizing total with
    | nil => rfl
    | cons place others inductionHypothesis =>
        rcases List.forall_mem_cons.mp small with ⟨first, rest⟩
        rw [List.map_cons, List.foldl_cons, List.foldl_cons, digitValueIn?_hexDigit first,
          Option.getD_some, inductionHypothesis rest]
  rw [groupText_eq]
  exact (folded _ small 0).trans (foldl_groupDigits group.toNat)

theorem accepts_group (group : UInt16) : groupForm.accepts (groupText group) = true := by
  have below := group.toNat_lt
  have short : (groupText group).length ≤ 4 := by
    rw [groupText_eq, List.length_map]
    exact (length_groupDigits group.toNat).2
  unfold NumberForm.accepts
  rw [value_groupText]
  simp [groupForm, groupText_ne_nil, short]
  exact decide_eq_true below

theorem read?_groupText_append (group : UInt16) {rest : List Char} (ends : groupForm.Ends rest) :
    groupForm.read? (groupText group ++ rest) = some (group.toNat, rest) := by
  have digitsOnly : ∀ c ∈ groupText group, groupForm.isDigit c = true := by
    intro c member
    obtain ⟨place, small, rfl⟩ := mem_groupText member
    show (digitValueIn? 16 (hexDigit place)).isSome = true
    rw [digitValueIn?_hexDigit small]
    rfl
  rw [NumberForm.read?_append digitsOnly ends (accepts_group group), value_groupText]

/-- A group is not the first octet of a version 4 address unless a dot follows it. -/
theorem readIPv4?_groupText_append (group : UInt16) {rest : List Char} (ends : octetForm.Ends rest)
    (noDot : rest.head? ≠ some '.') : readIPv4? (groupText group ++ rest) = none := by
  apply readIPv4?_eq_none
  have letters : ∀ c ∈ groupText group, c ≠ '.' := by
    intro c member
    obtain ⟨place, small, rfl⟩ := mem_groupText member
    have every : ∀ place < 16, hexDigit place ≠ '.' := by decide
    exact every place small
  -- The decimal digits of a group are followed by a hexadecimal one or by the rest.
  generalize groupText group = run at letters
  induction run with
  | nil =>
      rw [List.nil_append]
      cases rest with
      | nil => exact noDot
      | cons c others =>
          have other : ¬ octetForm.isDigit c = true := by
            rw [ends c rfl]
            decide
          rwa [List.dropWhile_cons_of_neg other]
  | cons c others inductionHypothesis =>
      rcases List.forall_mem_cons.mp letters with ⟨first, later⟩
      rw [List.cons_append]
      by_cases decimal : octetForm.isDigit c = true
      · rw [List.dropWhile_cons_of_pos decimal]
        exact inductionHypothesis later
      · rw [List.dropWhile_cons_of_neg decimal]
        intro same
        exact first (Option.some.inj same)

end ArithmeticCloud.Network
