import ArithmeticCloud.Proofs.Network.Groups
import ArithmeticCloud.Proofs.Text.NumeralForms
import Mathlib.Data.Bool.AllAny

/-!
Contract: endpoints are read back, and are told from numbers.

Owns:
- the port behind an address, and the zone behind a version 6 address;
- every endpoint as it is written, the characters that it is written with, and that it
  is one word;
- numerals of natural numbers, which are no endpoints.

Does not own: the other texts that are endpoints.
-/

namespace ArithmeticCloud.Network

open Text

/-! ## Ports and zones -/

theorem readPort?_ofWord16 (port : UInt16) :
    readPort? (':' :: ofWord16 port) = some (port, []) := by
  have read : portForm.read? (ofWord16 port ++ []) = some (port.toNat, []) :=
    read?_digits rfl (accepts_unlimited port.toNat_lt) (NumberForm.ends_nil portForm)
  rw [List.append_nil] at read
  simp only [readPort?, expect?_cons, read, Option.bind_eq_bind, Option.bind_some, Option.pure_def,
    UInt16.ofNat_toNat]

/-- The text of a zone; the default zone has none. -/
def zoneText (zone : UInt32) : List Char := if zone = 0 then [] else '%' :: ofWord32 zone

theorem readZone_zoneText (zone : UInt32) (rest : List Char) :
    readZone (zoneText zone ++ ']' :: rest) = (zone, ']' :: rest) := by
  unfold zoneText
  by_cases default : zone = 0
  · subst default
    rfl
  · have read : zoneForm.read? (ofWord32 zone ++ ']' :: rest) = some (zone.toNat, ']' :: rest) :=
      read?_digits rfl (accepts_unlimited zone.toNat_lt) (NumberForm.ends_cons (by decide) rest)
    rw [if_neg default, List.cons_append]
    simp only [readZone, expect?_cons, Option.bind_some, read, UInt32.ofNat_toNat]

/-- Neither a zone nor the closing bracket goes on with groups. -/
theorem endsGroups_zoneText (zone : UInt32) (rest : List Char) :
    EndsGroups (zoneText zone ++ ']' :: rest) := by
  have start : ∃ first others, zoneText zone ++ ']' :: rest = first :: others ∧
      (first = ']' ∨ first = '%') := by
    unfold zoneText
    split
    · exact ⟨']', rest, rfl, .inl rfl⟩
    · exact ⟨'%', _, rfl, .inr rfl⟩
  obtain ⟨first, others, text, bracket⟩ := start
  have other : groupForm.isDigit first = false ∧ first ≠ '.' ∧ first ≠ ':' := by
    rcases bracket with rfl | rfl <;> decide
  rw [text]
  refine ⟨NumberForm.ends_cons other.1 others, ?_, ?_⟩
  · intro same
    exact other.2.1 (Option.some.inj same)
  · intro tail same
    exact absurd (List.cons.inj same).1 other.2.2

/-! ## Marks -/

/-- The characters between the numbers of an endpoint. -/
def marks : List Char := ['.', ':', '[', ']', '%']

/-- A numeral has none of the marks. -/
theorem not_mem_of_isNatural {text : Word} {value : Nat} (isNatural : IsNatural text value)
    {mark : Char} (isMark : mark ∈ marks) : mark ∉ text := by
  have every : ∀ c ∈ marks, c.isDigit = false ∧ c ≠ '+' :=
    List.all_iff_forall_prop.mp (by decide)
  obtain ⟨notDigit, notSign⟩ := every mark isMark
  obtain ⟨run, isRun, shape⟩ := isNatural
  have notInRun : mark ∉ run := by
    intro member
    have digit := isRun.digits mark member
    rw [notDigit] at digit
    cases digit
  rcases shape with rfl | rfl
  · exact notInRun
  · rw [List.mem_cons]
    rintro (same | member)
    · exact notSign same
    · exact notInRun member

/-! ## Endpoints -/

namespace Endpoint

theorem text_v6 (address : IPv6) (port : UInt16) (zone : UInt32) :
    (Endpoint.v6 address port zone).text =
      '[' :: (address.text ++ (zoneText zone ++ ']' :: ':' :: ofWord16 port)) := by
  simp [text, zoneText]

/-- An endpoint is read back from its text. -/
theorem parse?_text (endpoint : Endpoint) : parse? endpoint.text = some endpoint := by
  cases endpoint with
  | v4 address port =>
      have read : readIPv4? (address.text ++ ':' :: ofWord16 port) =
          some (address, ':' :: ofWord16 port) :=
        readIPv4?_text_append address (NumberForm.ends_cons (by decide) _)
      simp only [parse?, text, readEndpointV4?, read, readPort?_ofWord16, Option.bind_eq_bind,
        Option.bind_some, Option.pure_def, complete?]
  | v6 address port zone =>
      have noAddress (others : List Char) : readIPv4? ('[' :: others) = none :=
        readIPv4?_of_ends (NumberForm.ends_cons (by decide) others)
      have read := readIPv6?_text_append
        (endsGroups_zoneText zone (':' :: ofWord16 port)) address
      simp only [parse?, text_v6, readEndpointV4?, noAddress, readEndpointV6?, expect?_cons, read,
        readZone_zoneText, readPort?_ofWord16, Option.bind_eq_bind, Option.bind_none,
        Option.bind_some, Option.pure_def, complete?]

/-- A text without a dot behind its digits and without a bracket is no endpoint. -/
theorem parse?_eq_none {text : List Char} (noDot : '.' ∉ text) (noBracket : '[' ∉ text) :
    parse? text = none := by
  have noAddress : readIPv4? text = none := by
    apply readIPv4?_eq_none
    intro same
    apply noDot
    exact (List.dropWhile_sublist _).subset (List.mem_of_mem_head? same)
  have noOpening : expect? '[' text = none := by
    cases text with
    | nil => rfl
    | cons first others =>
        apply expect?_cons_of_ne
        rintro rfl
        exact noBracket List.mem_cons_self
  simp only [parse?, readEndpointV4?, noAddress, readEndpointV6?, noOpening, Option.bind_eq_bind,
    Option.bind_none, complete?]

/-- A numeral is no endpoint: it has no dot and no bracket. -/
theorem parse?_of_isNatural {text : Word} {value : Nat} (isNatural : IsNatural text value) :
    parse? text = none :=
  parse?_eq_none (not_mem_of_isNatural isNatural (by decide))
    (not_mem_of_isNatural isNatural (by decide))

end Endpoint

/-! ## Characters -/

/-- The text consists of digits, at most hexadecimal ones, and marks. -/
def Spelled (text : List Char) : Prop :=
  ∀ c ∈ text, (∃ place < 16, c = hexDigit place) ∨ c ∈ marks

theorem Spelled.append {left right : List Char} (leftSpelled : Spelled left)
    (rightSpelled : Spelled right) : Spelled (left ++ right) := by
  intro c member
  rcases List.mem_append.mp member with inLeft | inRight
  · exact leftSpelled c inLeft
  · exact rightSpelled c inRight

theorem Spelled.cons {c : Char} {text : List Char} (mark : c ∈ marks) (spelled : Spelled text) :
    Spelled (c :: text) :=
  List.forall_mem_cons.mpr ⟨.inr mark, spelled⟩

/-- What holds of every digit and of every mark holds of every character. -/
theorem Spelled.forall_mem {text : List Char} (spelled : Spelled text) {p : Char → Prop}
    (ofDigit : ∀ place < 16, p (hexDigit place)) (ofMark : ∀ c ∈ marks, p c) :
    ∀ c ∈ text, p c := by
  intro c member
  rcases spelled c member with ⟨place, small, rfl⟩ | mark
  · exact ofDigit place small
  · exact ofMark c mark

theorem spelled_digits (value : Nat) : Spelled (digits value) := by
  intro c member
  obtain ⟨place, small, rfl⟩ := mem_digits member
  have every : ∀ place < 10, digit place = hexDigit place := by decide
  exact .inl ⟨place, by omega, every place small⟩

theorem spelled_groupText (group : UInt16) : Spelled (groupText group) := fun _ member =>
  .inl (mem_groupText member)

theorem spelled_groupsText (groups : List UInt16) : Spelled (groupsText groups) := by
  intro c member
  cases groups with
  | nil => cases member
  | cons group others =>
      rw [groupsText_cons] at member
      rcases List.mem_append.mp member with inFirst | later
      · exact spelled_groupText group c inFirst
      · obtain ⟨next, -, inNext⟩ := List.mem_flatMap.mp later
        exact (spelled_groupText next).cons (by decide) c inNext

theorem IPv4.spelled_text (address : IPv4) : Spelled address.text := by
  have dotted (value : Nat) : Spelled ('.' :: digits value) :=
    (spelled_digits value).cons (by decide)
  exact (((spelled_digits _).append (dotted _)).append (dotted _)).append (dotted _)

theorem IPv6.spelled_text (address : IPv6) : Spelled address.text := by
  have empty : Spelled [] := List.forall_mem_nil _
  have gap : Spelled "::".toList := (empty.cons (by decide)).cons (by decide)
  unfold IPv6.text
  split
  · next inner _ =>
      have mapping : Spelled "::ffff:".toList := by
        intro c member
        have every : ∀ c ∈ "::ffff:".toList, c = hexDigit 15 ∨ c ∈ marks :=
          List.all_iff_forall_prop.mp (by decide)
        exact (every c member).imp_left fun same => ⟨15, by decide, same⟩
      exact mapping.append inner.spelled_text
  · dsimp only
    split
    · exact ((spelled_groupsText _).append gap).append (spelled_groupsText _)
    · exact spelled_groupsText _

theorem Endpoint.spelled_text (endpoint : Endpoint) : Spelled endpoint.text := by
  have port (value : UInt16) : Spelled (':' :: ofWord16 value) :=
    (spelled_digits value.toNat).cons (by decide)
  cases endpoint with
  | v4 address value => exact address.spelled_text.append (port value)
  | v6 address value zone =>
      have zoneSpelled : Spelled (zoneText zone) := by
        unfold zoneText
        split
        · exact List.forall_mem_nil _
        · exact (spelled_digits zone.toNat).cons (by decide)
      rw [text_v6]
      exact (address.spelled_text.append
        (zoneSpelled.append ((port value).cons (by decide)))).cons (by decide)

/-- The text of an endpoint is one word. -/
theorem Endpoint.unbroken_text (endpoint : Endpoint) : Unbroken endpoint.text := by
  refine ⟨?_, endpoint.spelled_text.forall_mem (by decide)
    (List.all_iff_forall_prop.mp (by decide))⟩
  cases endpoint with
  | v4 address port => simp [text]
  | v6 address port zone => simp [text]

end ArithmeticCloud.Network
