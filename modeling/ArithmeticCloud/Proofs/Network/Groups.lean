import ArithmeticCloud.Proofs.Network.Numbers

/-!
Contract: version 6 addresses are read back.

Owns:
- runs of groups, which end where no further group can start;
- the longest run of zero groups, which is a run of zero groups of the address;
- the three written forms of an address: mapped, compressed and complete.

Does not own: brackets, zones and ports.
-/

namespace ArithmeticCloud.Network

open Text

/-! ## Runs of groups -/

/-- A text at which a run of groups ends: it goes on with neither a digit nor a dot,
and a colon is the first of two. -/
structure EndsGroups (rest : List Char) : Prop where
  ends : groupForm.Ends rest
  noDot : rest.head? ≠ some '.'
  colons : ∀ tail, rest = ':' :: tail → ∃ others, tail = ':' :: others

theorem ends_octet_of_ends_group {rest : List Char} (ends : groupForm.Ends rest) :
    octetForm.Ends rest := by
  have fewer (value? : Option Nat) (noDigit : (value?.filter (· < 16)).isSome = false) :
      (value?.filter (· < 10)).isSome = false := by
    cases value? with
    | none => rfl
    | some value =>
        simp only [Option.filter_some, decide_eq_true_eq] at noDigit ⊢
        by_cases small : value < 10
        · rw [if_pos (by omega)] at noDigit
          cases noDigit
        · rw [if_neg small]
          rfl
  intro c member
  exact fewer _ (ends c member)

theorem ends_group_colon (rest : List Char) : groupForm.Ends (':' :: rest) :=
  NumberForm.ends_cons (by decide) rest

/-- The groups of a run after its first, each behind a colon. -/
def colonGroups (groups : List UInt16) : List Char :=
  groups.flatMap fun group => ':' :: groupText group

theorem groupsText_cons (group : UInt16) (others : List UInt16) :
    groupsText (group :: others) = groupText group ++ colonGroups others := by
  unfold groupsText colonGroups
  induction others generalizing group with
  | nil => simp [List.intercalate]
  | cons next rest inductionHypothesis =>
      rw [List.map_cons, List.map_cons, List.intercalate_cons_cons, ← List.map_cons,
        inductionHypothesis, List.flatMap_cons]
      simp only [List.append_assoc, List.cons_append, List.nil_append]

section Reading

variable {slots : Nat} {rest : List Char}

theorem readGroups_of_ends (ends : EndsGroups rest) (isFirst : Bool) :
    readGroups slots isFirst rest = ⟨[], false, rest⟩ := by
  have nothing (text : List Char) (ends : groupForm.Ends text) :
      readIPv4? text = none ∧ groupForm.read? text = none :=
    ⟨readIPv4?_of_ends (ends_octet_of_ends_group ends), NumberForm.read?_of_ends ends⟩
  cases slots with
  | zero => rfl
  | succ slots =>
      have unread : ∀ text, (if isFirst then some rest else expect? ':' rest) = some text →
          readIPv4? text = none ∧ groupForm.read? text = none := by
        intro text start
        cases isFirst with
        | true =>
            obtain rfl := Option.some.inj start
            exact nothing rest ends.ends
        | false =>
            cases rest with
            | nil => cases start
            | cons first tail =>
                by_cases colon : first = ':'
                · subst colon
                  obtain ⟨others, rfl⟩ := ends.colons tail rfl
                  obtain rfl := Option.some.inj start
                  exact nothing _ (ends_group_colon others)
                · rw [if_neg (by decide), expect?_cons_of_ne colon] at start
                  cases start
      rw [readGroups]
      cases start : (if isFirst then some rest else expect? ':' rest) with
      | none => simp
      | some text => simp [unread text start]

/-- One group is read, and then the groups behind it. -/
theorem readGroups_group {isFirst : Bool} {text : List Char} {group : UInt16}
    (start : (if isFirst then some text else expect? ':' text) = some (groupText group ++ rest))
    (ends : groupForm.Ends rest) (noDot : rest.head? ≠ some '.') :
    readGroups (slots + 1) isFirst text =
      { readGroups slots false rest with
        groups := group :: (readGroups slots false rest).groups } := by
  have noAddress := readIPv4?_groupText_append group (ends_octet_of_ends_group ends) noDot
  have read := read?_groupText_append group ends
  rw [readGroups]
  simp only [start, Option.bind_some, noAddress, read, ite_self, UInt16.ofNat_toNat]

theorem ends_colonGroups (ends : EndsGroups rest) (groups : List UInt16) :
    groupForm.Ends (colonGroups groups ++ rest) ∧
      (colonGroups groups ++ rest).head? ≠ some '.' := by
  cases groups with
  | nil => exact ⟨ends.ends, ends.noDot⟩
  | cons group others =>
      have colon : colonGroups (group :: others) ++ rest =
          ':' :: (groupText group ++ (colonGroups others ++ rest)) := by
        simp [colonGroups]
      rw [colon]
      exact ⟨ends_group_colon _, by simp⟩

theorem readGroups_colonGroups (ends : EndsGroups rest) {groups : List UInt16}
    (fits : groups.length ≤ slots) :
    readGroups slots false (colonGroups groups ++ rest) = ⟨groups, false, rest⟩ := by
  induction groups generalizing slots with
  | nil => exact readGroups_of_ends ends false
  | cons group others inductionHypothesis =>
      obtain ⟨fewer, rfl⟩ : ∃ fewer, slots = fewer + 1 := Nat.exists_eq_succ_of_ne_zero (by
        rw [List.length_cons] at fits
        omega)
      have start : (if false then some (colonGroups (group :: others) ++ rest)
          else expect? ':' (colonGroups (group :: others) ++ rest)) =
            some (groupText group ++ (colonGroups others ++ rest)) := by
        simp [colonGroups, expect?_cons]
      obtain ⟨endsRun, noDot⟩ := ends_colonGroups ends others
      rw [readGroups_group start endsRun noDot,
        inductionHypothesis (by rw [List.length_cons] at fits; omega)]

/-- A run of groups is read to its end. -/
theorem readGroups_groupsText (ends : EndsGroups rest) {groups : List UInt16}
    (fits : groups.length ≤ slots) :
    readGroups slots true (groupsText groups ++ rest) = ⟨groups, false, rest⟩ := by
  cases groups with
  | nil => exact readGroups_of_ends ends true
  | cons group others =>
      rw [List.length_cons] at fits
      obtain ⟨fewer, rfl⟩ := Nat.exists_eq_succ_of_ne_zero (n := slots) (by omega)
      obtain ⟨endsRun, noDot⟩ := ends_colonGroups ends others
      rw [groupsText_cons, List.append_assoc, readGroups_group rfl endsRun noDot,
        readGroups_colonGroups ends (by omega)]

end Reading

/-! ## The longest run of zero groups -/

/-- Every group of the run is zero. -/
def ZeroRun.Within (run : ZeroRun) (groups : List UInt16) : Prop :=
  ∀ position, run.start ≤ position → position < run.start + run.size →
    groups[position]? = some 0

theorem ZeroRun.within_empty (start : Nat) (groups : List UInt16) :
    (ZeroRun.mk start 0).Within groups := by
  intro position after before
  have none : position < start + 0 := before
  have some : start ≤ position := after
  omega

/-- The run that ends in front of a position, and the longest so far, are runs of the
groups; so is the longest of all. -/
theorem within_longestZeroRun {groups : List UInt16} (rest : List UInt16) {position : Nat}
    {current longest : ZeroRun} (suffix : groups.drop position = rest)
    (ends : current.size ≠ 0 → current.start + current.size = position)
    (currentRun : current.Within groups) (longestRun : longest.Within groups) :
    (longestZeroRun position current longest rest).Within groups := by
  induction rest generalizing position current longest with
  | nil => exact longestRun
  | cons group others inductionHypothesis =>
      have here : groups[position]? = some group := by
        rw [← List.head?_drop, suffix, List.head?_cons]
      have later : groups.drop (position + 1) = others := by
        rw [← List.drop_drop, suffix, List.drop_one, List.tail_cons]
      rw [longestZeroRun]
      by_cases zero : group = 0
      · rw [if_pos zero]
        subst zero
        generalize grows : (if current.size = 0 then ZeroRun.mk position 1
          else ⟨current.start, current.size + 1⟩) = grown
        have grownEnds : grown.start + grown.size = position + 1 := by
          subst grows
          split
          · rfl
          · next nonempty =>
              have reached := ends nonempty
              simp only
              omega
        have grownRun : grown.Within groups := by
          intro place after before
          by_cases last : place = position
          · rw [last, here]
          · subst grows
            split at after
            · simp only at after
              omega
            · next nonempty =>
                have reached := ends nonempty
                exact currentRun place after (by omega)
        refine inductionHypothesis later (fun _ => grownEnds) grownRun ?_
        split
        · exact grownRun
        · exact longestRun
      · rw [if_neg zero]
        exact inductionHypothesis later (fun nonempty => absurd rfl nonempty)
          (ZeroRun.within_empty 0 groups) longestRun

/-- The groups around a run of zeros. -/
theorem eq_append_of_within {groups : List UInt16} {run : ZeroRun} (within : run.Within groups)
    (nonempty : 0 < run.size) :
    groups = groups.take run.start ++ List.replicate run.size 0 ++
        groups.drop (run.start + run.size) ∧
      run.start + run.size ≤ groups.length := by
  have inside : run.start + run.size ≤ groups.length := by
    have last := within (run.start + run.size - 1) (by omega) (by omega)
    obtain ⟨below, -⟩ := List.getElem?_eq_some_iff.mp last
    omega
  refine ⟨?_, inside⟩
  have zeros : (groups.drop run.start).take run.size = List.replicate run.size 0 := by
    rw [List.eq_replicate_iff]
    refine ⟨by rw [List.length_take, List.length_drop]; omega, ?_⟩
    intro group member
    obtain ⟨place, found⟩ := List.getElem?_of_mem member
    have below : place < run.size := by
      obtain ⟨below, -⟩ := List.getElem?_eq_some_iff.mp found
      rw [List.length_take] at below
      omega
    rw [List.getElem?_take_of_lt below, List.getElem?_drop] at found
    have zero := within (run.start + place) (by omega) (by omega)
    rw [zero] at found
    exact (Option.some.inj found).symm
  rw [← zeros, ← List.drop_drop, List.append_assoc, List.take_append_drop,
    List.take_append_drop]

/-! ## Written addresses -/

theorem ipv6OfGroups?_groups (address : IPv6) : ipv6OfGroups? address.groups = some address :=
  dif_pos address.size_eq

section Addresses

variable {rest : List Char} (ends : EndsGroups rest)
include ends

theorem readIPv6?_groupsText {address : IPv6} :
    readIPv6? (groupsText address.groups ++ rest) = some (address, rest) := by
  have head : readGroups 8 true (groupsText address.groups ++ rest) =
      ⟨address.groups, false, rest⟩ :=
    readGroups_groupsText ends (Nat.le_of_eq address.size_eq)
  simp only [readIPv6?, head, address.size_eq, if_true, ipv6OfGroups?_groups, Option.map_some]

/-- Groups with a run of zero groups between them that is left out. -/
theorem readIPv6?_compressed {address : IPv6} {front back : List UInt16} {size : Nat}
    (groups : address.groups = front ++ List.replicate size 0 ++ back) (several : 1 < size) :
    readIPv6? (groupsText front ++ "::".toList ++ groupsText back ++ rest) =
      some (address, rest) := by
  have total : front.length + size + back.length = 8 := by
    have length := congrArg List.length groups
    rw [address.size_eq] at length
    simp only [List.length_append, List.length_replicate] at length
    exact length.symm
  have colons : EndsGroups (':' :: ':' :: (groupsText back ++ rest)) :=
    ⟨ends_group_colon _, by simp, fun tail same => ⟨_, (List.cons.inj same).2.symm⟩⟩
  have text : groupsText front ++ "::".toList ++ groupsText back ++ rest =
      groupsText front ++ (':' :: ':' :: (groupsText back ++ rest)) := by
    simp
  have head : readGroups 8 true (groupsText front ++ (':' :: ':' :: (groupsText back ++ rest))) =
      ⟨front, false, ':' :: ':' :: (groupsText back ++ rest)⟩ :=
    readGroups_groupsText colons (by omega)
  have tail : readGroups (7 - front.length) true (groupsText back ++ rest) = ⟨back, false, rest⟩ :=
    readGroups_groupsText ends (by omega)
  have short : ¬ front.length = 8 := by omega
  have gap : 8 - front.length - back.length = size := by omega
  simp only [readIPv6?, text, head, if_neg short, Bool.false_eq_true, if_false, expect?_cons,
    Option.bind_eq_bind, Option.bind_some, tail, gap, ← groups, ipv6OfGroups?_groups,
    Option.pure_def]

/-- A version 4 address behind the groups that map it. -/
theorem readIPv6?_mapped {address : IPv6} {inner : IPv4} (mapped : address.mapped? = some inner) :
    readIPv6? ("::ffff:".toList ++ inner.text ++ rest) = some (address, rest) := by
  have groups : address.groups = List.replicate 5 0 ++ 0xffff :: inner.groups := by
    unfold IPv6.mapped? at mapped
    split at mapped
    · next high low same =>
        obtain rfl := Option.some.inj mapped
        have halves (group : UInt16) :
            UInt16.ofNat (256 * (group >>> 8).toUInt8.toNat + group.toUInt8.toNat) = group := by
          apply UInt16.toNat_inj.mp
          have below := group.toNat_lt
          simp only [UInt16.toNat_ofNat', UInt16.toNat_toUInt8, UInt16.toNat_shiftRight,
            Nat.shiftRight_eq_div_pow]
          simp
          omega
        simp only [same, IPv4.groups, halves]
        rfl
    · cases mapped
  have text : "::ffff:".toList ++ inner.text ++ rest =
      ':' :: ':' :: ("ffff".toList ++ ':' :: (inner.text ++ rest)) := by
    simp
  have colons : EndsGroups (':' :: ':' :: ("ffff".toList ++ ':' :: (inner.text ++ rest))) :=
    ⟨ends_group_colon _, by simp, fun tail same => ⟨_, (List.cons.inj same).2.symm⟩⟩
  have head : readGroups 8 true (':' :: ':' :: ("ffff".toList ++ ':' :: (inner.text ++ rest))) =
      ⟨[], false, ':' :: ':' :: ("ffff".toList ++ ':' :: (inner.text ++ rest))⟩ :=
    readGroups_of_ends colons true
  have embedded : readGroups 6 false (':' :: (inner.text ++ rest)) =
      ⟨inner.groups, true, rest⟩ := by
    rw [readGroups]
    simp only [Bool.false_eq_true, if_false, expect?_cons, Option.bind_some,
      readIPv4?_text_append inner (ends_octet_of_ends_group ends.ends)]
    rfl
  have tail : readGroups 7 true ("ffff".toList ++ ':' :: (inner.text ++ rest)) =
      ⟨0xffff :: inner.groups, true, rest⟩ := by
    have start : "ffff".toList = groupText 0xffff := by decide
    rw [start, readGroups_group rfl (ends_group_colon _) (by simp), embedded]
  have padded : [] ++ List.replicate (8 - (0xffff :: inner.groups).length) 0 ++
      0xffff :: inner.groups = address.groups := groups.symm
  simp only [readIPv6?, text, head, Bool.false_eq_true, if_false, expect?_cons,
    Option.bind_eq_bind, Option.bind_some, tail, List.length_nil, Nat.sub_zero, padded,
    ipv6OfGroups?_groups]
  rfl

theorem readIPv6?_text_append (address : IPv6) :
    readIPv6? (address.text ++ rest) = some (address, rest) := by
  unfold IPv6.text
  cases mapped : address.mapped? with
  | some inner => exact readIPv6?_mapped ends mapped
  | none =>
      have within : (longestZeroRun 0 ⟨0, 0⟩ ⟨0, 0⟩ address.groups).Within address.groups :=
        within_longestZeroRun address.groups rfl (fun nonempty => absurd rfl nonempty)
          (ZeroRun.within_empty 0 _) (ZeroRun.within_empty 0 _)
      dsimp only
      split
      · next several =>
          obtain ⟨groups, -⟩ := eq_append_of_within within (by omega)
          exact readIPv6?_compressed ends groups several
      · exact readIPv6?_groupsText ends

end Addresses

end ArithmeticCloud.Network
