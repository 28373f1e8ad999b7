import Mathlib.Algebra.GroupWithZero.Nat
import Mathlib.Data.List.Perm.Basic

/-!
Contract: lists with the same entries in another order.

Owns:
- an entry that is replaced, in terms of the entries together;
- what sorting does to entries that count as equal: those of one class stay in their order, and
  any two entries of a sorted list are in order, and as they were before if neither order is wrong.

Does not own: particular orders.
-/

namespace ArithmeticCloud

/-! ## Replacing -/

section Replacing

variable {α β : Type} {entries : List α} {position : Nat} {old : α} (new : α)
  (found : entries[position]? = some old)

include found

/-- The old entry goes and the new one comes. -/
theorem set_append_perm : (entries.set position new ++ [old]).Perm (entries ++ [new]) := by
  obtain ⟨inside, rfl⟩ := List.getElem?_eq_some_iff.mp found
  calc (entries.set position new ++ [entries[position]]).Perm
        (entries[position] :: entries.set position new) := List.perm_append_singleton _ _
    _ |>.Perm (entries[position] :: new :: entries.eraseIdx position) :=
        (List.set_perm_cons_eraseIdx inside new).cons _
    _ |>.Perm (new :: entries[position] :: entries.eraseIdx position) := List.Perm.swap _ _ _
    _ |>.Perm (new :: entries) := (List.getElem_cons_eraseIdx_perm inside).cons new
    _ |>.Perm (entries ++ [new]) := (List.perm_append_singleton _ _).symm

theorem count_flatMap_set [DecidableEq β] (give : α → List β) (counted : β) :
    ((entries.set position new).flatMap give).count counted + (give old).count counted =
      (entries.flatMap give).count counted + (give new).count counted := by
  have same := ((set_append_perm new found).flatMap_right give).count_eq counted
  simpa only [List.flatMap_append, List.flatMap_singleton, List.count_append] using same

theorem sum_map_set (weight : α → Nat) :
    ((entries.set position new).map weight).sum + weight old =
      (entries.map weight).sum + weight new := by
  have same := ((set_append_perm new found).map weight).sum_nat
  simpa only [List.map_append, List.map_singleton, List.sum_append, List.sum_singleton] using same

omit new in
theorem map_set_of_eq {new : α} {give : α → β} (same : give new = give old) :
    (entries.set position new).map give = entries.map give := by
  obtain ⟨inside, rfl⟩ := List.getElem?_eq_some_iff.mp found
  have insideMap : position < (entries.map give).length := by rwa [List.length_map]
  have kept := List.set_getElem_self insideMap
  rwa [List.getElem_map, ← same, ← List.map_set] at kept

end Replacing

/-! ## Sorting -/

section Sorting

variable {α : Type} {le : α → α → Bool}
  (trans : ∀ first second third, le first second = true → le second third = true →
    le first third = true)
  (total : ∀ first second, (le first second || le second first) = true)

include trans total

/-- Entries that count as equal are kept as they were, among themselves. -/
theorem filter_mergeSort {entries : List α} {chosen : α → Bool}
    (alike : ∀ first ∈ entries, ∀ second ∈ entries, chosen first = true → chosen second = true →
      le first second = true) :
    (entries.mergeSort le).filter chosen = entries.filter chosen := by
  have sorted : (entries.filter chosen).Pairwise fun first second => le first second = true := by
    apply List.pairwise_of_forall_mem_list
    intro first isFirst second isSecond
    rw [List.mem_filter] at isFirst isSecond
    exact alike first isFirst.1 second isSecond.1 isFirst.2 isSecond.2
  have within : (entries.filter chosen).Sublist (entries.mergeSort le) :=
    List.sublist_mergeSort trans total sorted List.filter_sublist
  have kept := within.filter chosen
  simp only [List.filter_filter, Bool.and_self] at kept
  have same : (entries.filter chosen).length = ((entries.mergeSort le).filter chosen).length :=
    ((List.mergeSort_perm entries le).filter chosen).length_eq.symm
  exact (kept.eq_of_length same).symm

/-- Of two entries of a sorted list the first is not greater, and if it is not less either, it was
in front of the other before. -/
theorem pairwise_mergeSort_stable (entries : List α) :
    (entries.mergeSort le).Pairwise fun first second =>
      le first second = true ∧ (le second first = true → [first, second].Sublist entries) := by
  rw [List.pairwise_iff_forall_sublist]
  intro first second inSorted
  have ordered : le first second = true :=
    List.pairwise_iff_forall_sublist.mp (List.pairwise_mergeSort trans total entries) inSorted
  refine ⟨ordered, fun reverse => ?_⟩
  have reflexive : le first first = true := trans first second first ordered reverse
  let equal (entry : α) : Bool := le first entry && le entry first
  have pair : [first, second].filter equal = [first, second] := by
    simp [equal, reflexive, ordered, reverse]
  have among := inSorted.filter equal
  rw [pair, filter_mergeSort trans total] at among
  · exact among.trans List.filter_sublist
  · intro left _ right _ leftEqual rightEqual
    simp only [equal, Bool.and_eq_true] at leftEqual rightEqual
    exact trans left first right leftEqual.2 rightEqual.1

end Sorting

end ArithmeticCloud
