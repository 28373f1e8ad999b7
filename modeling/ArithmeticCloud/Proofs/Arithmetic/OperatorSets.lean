import ArithmeticCloud.Arithmetic.OperatorSet
import ArithmeticCloud.Proofs.Text.Words

/-!
Contract: operator sets without duplicates are read back from their text.

Owns: the members of a set that is put together by insertion; the text of a set as a
word; the sets that reading gives; operators read from words.

Does not own: sets that were not put together by insertion.
-/

namespace ArithmeticCloud.OperatorSet

open Text

/-! ## Insertion -/

theorem mem_insert {set : OperatorSet} {inserted operator : Operator} :
    operator ∈ (set.insert inserted).members ↔ operator ∈ set.members ∨ operator = inserted := by
  rw [members_insert]
  split
  · next known =>
      have member : inserted ∈ set.members := List.contains_iff_mem.mp known
      refine ⟨Or.inl, fun either => ?_⟩
      rcases either with already | rfl
      · exact already
      · exact member
  · rw [List.mem_append, List.mem_singleton]

theorem nodup_insert {set : OperatorSet} (distinct : set.members.Nodup) (operator : Operator) :
    (set.insert operator).members.Nodup := by
  rw [members_insert]
  split
  · exact distinct
  · next unknown =>
      have fresh : operator ∉ set.members := fun member =>
        unknown (List.contains_iff_mem.mpr member)
      exact List.nodup_append.mpr ⟨distinct, List.pairwise_singleton _ operator, by
        intro left inSet right inserted same
        rw [List.mem_singleton] at inserted
        exact fresh (inserted ▸ same ▸ inSet)⟩

theorem mem_foldl_insert {operators : List Operator} {set : OperatorSet} {operator : Operator} :
    operator ∈ (operators.foldl insert set).members ↔
      operator ∈ set.members ∨ operator ∈ operators := by
  induction operators generalizing set with
  | nil => simp
  | cons first others inductionHypothesis =>
      rw [List.foldl_cons, inductionHypothesis, mem_insert, List.mem_cons, or_assoc]

theorem nodup_foldl_insert {set : OperatorSet} (distinct : set.members.Nodup)
    (operators : List Operator) : (operators.foldl insert set).members.Nodup := by
  induction operators generalizing set with
  | nil => exact distinct
  | cons first others inductionHypothesis =>
      exact inductionHypothesis (nodup_insert distinct first)

/-- Distinct operators that are not in the set yet are added in their order. -/
theorem foldl_insert_of_nodup {operators : List Operator} {set : OperatorSet}
    (distinct : (set.members ++ operators).Nodup) :
    operators.foldl insert set = ⟨set.members ++ operators⟩ := by
  induction operators generalizing set with
  | nil =>
      rw [List.append_nil]
      rfl
  | cons first others inductionHypothesis =>
      have fresh : set.contains first = false := by
        rw [contains, List.contains_eq_mem, decide_eq_false_iff_not]
        intro member
        exact (List.nodup_append.mp distinct).2.2 first member first List.mem_cons_self rfl
      have grown : set.insert first = ⟨set.members ++ [first]⟩ := by
        rw [insert, if_neg (by rw [fresh]; decide)]
      rw [List.foldl_cons, grown, inductionHypothesis (by simpa using distinct),
        List.append_assoc, List.singleton_append]

/-- Insertion keeps the first of equal operators. -/
theorem members_foldl_insert (operators : List Operator) (set : OperatorSet) :
    (operators.foldl insert set).members =
      set.members ++ (operators.filter fun operator => !set.contains operator).eraseDups := by
  induction operators generalizing set with
  | nil => simp
  | cons first others inductionHypothesis =>
      rw [List.foldl_cons, inductionHypothesis, List.filter_cons]
      by_cases known : set.contains first = true
      · have same : set.insert first = set := by rw [insert, if_pos known]
        rw [same, known]
        rfl
      · have grown : set.insert first = ⟨set.members ++ [first]⟩ := by rw [insert, if_neg known]
        have unknown : set.contains first = false := Bool.eq_false_iff.mpr known
        have remaining : (others.filter fun operator => !contains ⟨set.members ++ [first]⟩ operator) =
            (others.filter fun operator => !set.contains operator).filter (!· == first) := by
          rw [List.filter_filter]
          apply List.filter_congr
          intro operator _
          rw [Bool.eq_iff_iff]
          simp [contains, and_comm]
        rw [grown, unknown, remaining, Bool.not_false, if_pos rfl, List.eraseDups_cons,
          List.append_assoc, List.singleton_append]

/-- A set has the operators that it is made of in the order in which each is first seen. -/
theorem members_ofList (operators : List Operator) :
    (ofList operators).members = operators.eraseDups := by
  have all : (operators.filter fun operator => !empty.contains operator) = operators :=
    List.filter_eq_self.mpr fun _ _ => rfl
  rw [ofList, members_foldl_insert, all]
  rfl

theorem mem_ofList {operators : List Operator} {operator : Operator} :
    operator ∈ (ofList operators).members ↔ operator ∈ operators := by
  rw [ofList, mem_foldl_insert]
  simp [empty]

/-! ## Texts -/

/-- A set that has a text which is read: it has members, and none twice. -/
def Written (set : OperatorSet) : Prop := set.members ≠ [] ∧ set.members.Nodup

instance (set : OperatorSet) : Decidable set.Written :=
  inferInstanceAs (Decidable (_ ∧ _))

theorem ofSymbol?_eq_some {c : Char} {operator : Operator}
    (read : Operator.ofSymbol? c = some operator) : operator.symbol = c := by
  have same := List.find?_some read
  exact eq_of_beq same

/-- Operators are read from the symbols of just these operators. -/
theorem mapM_ofSymbol?_eq_some_iff {word : Word} {operators : List Operator} :
    word.mapM Operator.ofSymbol? = some operators ↔ word = operators.map Operator.symbol := by
  refine ⟨fun read => ?_, fun symbols => ?_⟩
  · induction word generalizing operators with
    | nil =>
        obtain rfl := Option.some.inj read
        rfl
    | cons c rest inductionHypothesis =>
        rw [List.mapM_cons] at read
        obtain ⟨first, head, read⟩ := Option.bind_eq_some_iff.mp read
        obtain ⟨others, tail, same⟩ := Option.bind_eq_some_iff.mp read
        obtain rfl := Option.some.inj same
        rw [List.map_cons, ofSymbol?_eq_some head, inductionHypothesis tail]
  · subst symbols
    induction operators with
    | nil => rfl
    | cons first others inductionHypothesis =>
        rw [List.map_cons, List.mapM_cons, Operator.ofSymbol?_symbol, inductionHypothesis]
        rfl

theorem parse?_text {set : OperatorSet} (written : set.Written) :
    parse? set.text = some set := by
  have nonempty : set.text.isEmpty = false := by
    rw [text, List.isEmpty_eq_false_iff, Ne, List.map_eq_nil_iff]
    exact written.1
  have whole : ofList set.members = set := foldl_insert_of_nodup written.2
  rw [parse?, nonempty, text, mapM_ofSymbol?_eq_some_iff.mpr rfl, Option.map_some, whole]
  rfl

/-- Whatever set is read has a text that is read. -/
theorem written_of_parse? {word : Word} {set : OperatorSet} (read : parse? word = some set) :
    set.Written := by
  unfold parse? at read
  split at read
  · cases read
  · next nonempty =>
      obtain ⟨operators, symbols, rfl⟩ := Option.map_eq_some_iff.mp read
      refine ⟨?_, nodup_foldl_insert List.nodup_nil operators⟩
      rw [mapM_ofSymbol?_eq_some_iff] at symbols
      cases operators with
      | nil =>
          subst symbols
          exact absurd rfl nonempty
      | cons first others => exact List.ne_nil_of_mem (mem_ofList.mpr List.mem_cons_self)

theorem unbroken_text {set : OperatorSet} (nonempty : set.members ≠ []) : Unbroken set.text := by
  refine ⟨by rw [text, Ne, List.map_eq_nil_iff]; exact nonempty, ?_⟩
  intro c member
  obtain ⟨operator, -, rfl⟩ := List.mem_map.mp member
  cases operator <;> decide

end ArithmeticCloud.OperatorSet

namespace ArithmeticCloud.Operator

open Text

/-- An operator is read from its symbol alone. -/
theorem parse?_eq_some_iff {word : Word} {operator : Operator} :
    parse? word = some operator ↔ word = [operator.symbol] := by
  constructor
  · intro read
    unfold parse? at read
    split at read
    · rw [OperatorSet.ofSymbol?_eq_some read]
    · cases read
  · rintro rfl
    exact ofSymbol?_symbol operator

end ArithmeticCloud.Operator
