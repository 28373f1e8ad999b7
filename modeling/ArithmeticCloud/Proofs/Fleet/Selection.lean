import ArithmeticCloud.Fleet.Registry
import Mathlib.Data.UInt

/-!
Contract: the node that is given the next sub-operation.

Owns: the picked node in terms of the records alone. Among the nodes that are
online and support the operator it is the least used, and of several the one seen
first; none is picked exactly when no node serves the operator.

Does not own: how usage comes about.
-/

namespace ArithmeticCloud.Fleet

open Network

namespace Registry

/-! ## The least used record -/

theorem leastUsed?_eq_none_iff {records : List NodeRecord} :
    leastUsed? records = none ↔ records = [] := by
  cases records with
  | nil => exact ⟨fun _ => rfl, fun _ => rfl⟩
  | cons record others =>
      refine ⟨fun absent => ?_, fun empty => nomatch empty⟩
      simp only [leastUsed?] at absent
      split at absent
      · cases absent
      · split at absent <;> cases absent

/-- What stands in front of the least used record is used more, and what follows
is not used less. -/
theorem exists_append_of_leastUsed? {records : List NodeRecord} {best : NodeRecord}
    (found : leastUsed? records = some best) :
    ∃ earlier later, records = earlier ++ best :: later ∧
      (∀ other ∈ earlier, best.usage < other.usage) ∧
      ∀ other ∈ later, best.usage ≤ other.usage := by
  induction records generalizing best with
  | nil => cases found
  | cons record others inductionHypothesis =>
      simp only [leastUsed?] at found
      split at found
      · next alone =>
          obtain rfl := Option.some.inj found
          obtain rfl := leastUsed?_eq_none_iff.mp alone
          exact ⟨[], [], rfl, by simp, by simp⟩
      · next rival rivals =>
          rcases inductionHypothesis rivals with ⟨earlier, later, rfl, before, after⟩
          split at found
          · next less =>
              obtain rfl := Option.some.inj found
              exact ⟨record :: earlier, later, rfl, List.forall_mem_cons.mpr ⟨less, before⟩, after⟩
          · next notLess =>
              obtain rfl := Option.some.inj found
              have least : record.usage ≤ rival.usage := UInt64.not_lt.mp notLess
              refine ⟨[], earlier ++ rival :: later, rfl, by simp, fun other member => ?_⟩
              rcases List.mem_append.mp member with front | back
              · exact UInt64.le_trans least (UInt64.le_of_lt (before other front))
              · rcases List.mem_cons.mp back with rfl | back
                · exact least
                · exact UInt64.le_trans least (after other back)

theorem leastUsed?_append_cons {earlier later : List NodeRecord} {best : NodeRecord}
    (before : ∀ other ∈ earlier, best.usage < other.usage)
    (after : ∀ other ∈ later, best.usage ≤ other.usage) :
    leastUsed? (earlier ++ best :: later) = some best := by
  induction earlier with
  | nil =>
      simp only [List.nil_append, leastUsed?]
      split
      · rfl
      · next rival rivals =>
          rcases exists_append_of_leastUsed? rivals with ⟨front, back, rfl, -, -⟩
          have notLess := after rival (List.mem_append_right front List.mem_cons_self)
          rw [if_neg (UInt64.not_lt.mpr notLess)]
  | cons record others inductionHypothesis =>
      rcases List.forall_mem_cons.mp before with ⟨more, moreOthers⟩
      rw [List.cons_append, leastUsed?, inductionHypothesis moreOthers]
      simp only [if_pos more]

/-! ## The picked node -/

/-- The node is the first of the least used among those that serve the operator. -/
def Prefers (registry : Registry) (operator : Operator) (node : Endpoint) : Prop :=
  ∃ earlier record later, registry.records = earlier ++ record :: later ∧
    record.endpoint = node ∧ record.serves operator = true ∧
    (∀ other ∈ earlier, other.serves operator = true → record.usage < other.usage) ∧
    ∀ other ∈ later, other.serves operator = true → record.usage ≤ other.usage

theorem pick?_eq_some_iff (registry : Registry) (operator : Operator) (node : Endpoint) :
    registry.pick? operator = some node ↔ registry.Prefers operator node := by
  constructor
  · intro picked
    rcases Option.map_eq_some_iff.mp picked with ⟨record, least, rfl⟩
    rcases exists_append_of_leastUsed? least with ⟨before, after, serving, more, notLess⟩
    rcases List.filter_eq_append_iff.mp serving with ⟨earlier, tail, whole, rfl, rest⟩
    rcases List.filter_eq_cons_iff.mp rest with ⟨skipped, later, rfl, unserving, serves, rfl⟩
    refine ⟨earlier ++ skipped, record, later, by rw [whole, List.append_assoc], rfl, serves,
      fun other member able => ?_, fun other member able => ?_⟩
    · rcases List.mem_append.mp member with front | back
      · exact more other (List.mem_filter.mpr ⟨front, able⟩)
      · exact absurd able (unserving other back)
    · exact notLess other (List.mem_filter.mpr ⟨member, able⟩)
  · rintro ⟨earlier, record, later, whole, rfl, serves, more, notLess⟩
    have serving : registry.records.filter (·.serves operator) =
        earlier.filter (·.serves operator) ++ record :: later.filter (·.serves operator) := by
      rw [whole, List.filter_append, List.filter_cons, if_pos serves]
    rw [pick?, serving, leastUsed?_append_cons, Option.map_some]
    · intro other member
      exact more other (List.mem_filter.mp member).1 (List.mem_filter.mp member).2
    · intro other member
      exact notLess other (List.mem_filter.mp member).1 (List.mem_filter.mp member).2

theorem pick?_eq_none_iff (registry : Registry) (operator : Operator) :
    registry.pick? operator = none ↔
      ∀ record ∈ registry.records, record.serves operator = false := by
  simp only [pick?, Option.map_eq_none_iff, leastUsed?_eq_none_iff, List.filter_eq_nil_iff,
    Bool.not_eq_true]

end Registry

end ArithmeticCloud.Fleet
