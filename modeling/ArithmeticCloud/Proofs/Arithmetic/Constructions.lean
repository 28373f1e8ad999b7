import ArithmeticCloud.Proofs.Arithmetic.OperatorSets
import ArithmeticCloud.Settings.Format

/-!
Contract: the operator sets that can be made, and which of them are read back from their
text.

Owns:
- the ways of making a set: empty, full, from a list, from a text, from a document, and
  from another set by insertion;
- the members of a set in terms of the operators that went into it;
- that a set has duplicates exactly if the document that it came from lists some, and that
  exactly those sets are read back as other sets.

Does not own: which texts and documents are read.
-/

namespace ArithmeticCloud.OperatorSet

open Settings Text

/-! ## Ways of making a set -/

inductive Construction where
  | empty
  | all
  | ofList (operators : List Operator)
  | ofText (word : Word)
  | ofDocument (document : Document)
  | insert (construction : Construction) (operator : Operator)

namespace Construction

/-- The set that is made; there is none if a text or a document is not read. -/
def make? : Construction → Option OperatorSet
  | .empty => some .empty
  | .all => some .all
  | .ofList operators => some (.ofList operators)
  | .ofText word => parse? word
  | .ofDocument document => document.operatorSet?
  | .insert construction operator => construction.make?.map (·.insert operator)

/-- The document that a construction starts from. -/
def document? : Construction → Option Document
  | .ofDocument document => some document
  | .insert construction _ => construction.document?
  | _ => none

/-- The operators that the document lists, one by one. -/
def listed (construction : Construction) : List Operator :=
  (construction.document?.bind (Document.list? Document.operator?)).getD []

/-- The operators that are put into the set in other ways, in order. -/
def added : Construction → List Operator
  | .empty | .ofDocument _ => []
  | .all => Operator.all
  | .ofList operators => operators
  | .ofText word => word.filterMap Operator.ofSymbol?
  | .insert construction operator => construction.added ++ [operator]

/-- Every construction comes down to insertions into what its document lists. -/
theorem eq_foldl_insert {construction : Construction} {set : OperatorSet}
    (made : construction.make? = some set) :
    set = construction.added.foldl OperatorSet.insert ⟨construction.listed⟩ := by
  induction construction generalizing set with
  | empty | all | ofList operators => exact (Option.some.inj made).symm
  | ofText word =>
      unfold make? parse? at made
      split at made
      · cases made
      · obtain ⟨operators, symbols, rfl⟩ := Option.map_eq_some_iff.mp made
        obtain rfl := mapM_ofSymbol?_eq_some_iff.mp symbols
        have back : Operator.ofSymbol? ∘ Operator.symbol = some := by
          funext operator
          exact operator.ofSymbol?_symbol
        rw [added, List.filterMap_map, back, List.filterMap_some]
        rfl
  | ofDocument document =>
      obtain ⟨operators, read, rfl⟩ := Option.map_eq_some_iff.mp made
      show _ = OperatorSet.mk ((document.list? Document.operator?).getD [])
      rw [read]
      rfl
  | insert construction operator inductionHypothesis =>
      obtain ⟨earlier, madeEarlier, rfl⟩ := Option.map_eq_some_iff.mp made
      rw [added, List.foldl_append, inductionHypothesis madeEarlier]
      rfl

end Construction

/-! ## Members and texts -/

theorem nodup_eraseDups (operators : List Operator) : operators.eraseDups.Nodup := by
  rw [← members_ofList]
  exact nodup_foldl_insert List.nodup_nil operators

/-- There are four operators. -/
theorem length_le_four {operators : List Operator} (distinct : operators.Nodup) :
    operators.length ≤ 4 :=
  distinct.length_le_of_subset fun operator _ => operator.mem_all

/-- Insertion neither brings duplicates nor takes any away. -/
theorem nodup_foldl_insert_iff (operators listed : List Operator) :
    (operators.foldl insert ⟨listed⟩).members.Nodup ↔ listed.Nodup := by
  constructor
  · intro distinct
    rw [members_foldl_insert] at distinct
    exact distinct.sublist (List.sublist_append_left listed _)
  · intro distinct
    exact nodup_foldl_insert distinct operators

/-- Distinct operators are inserted first or listed: it comes to the same. -/
theorem foldl_insert_eq_ofList {listed : List Operator} (distinct : listed.Nodup)
    (operators : List Operator) :
    operators.foldl insert ⟨listed⟩ = ofList (listed ++ operators) := by
  have whole : listed.foldl insert empty = ⟨listed⟩ := foldl_insert_of_nodup distinct
  rw [ofList, List.foldl_append, whole]

/-- Reading keeps the first of equal operators, whether they were listed or inserted. -/
theorem eraseDups_foldl_insert (operators listed : List Operator) :
    (operators.foldl insert ⟨listed⟩).members.eraseDups = (listed ++ operators).eraseDups := by
  have fresh : (operators.filter fun operator => !listed.contains operator).eraseDups.removeAll
      listed = (operators.filter fun operator => !listed.contains operator).eraseDups := by
    apply List.filter_eq_self.mpr
    intro operator member
    exact (List.mem_filter.mp (List.mem_eraseDups.mp member)).2
  have settled {distinct : List Operator} (nodup : distinct.Nodup) :
      distinct.eraseDups = distinct := by
    have whole : ofList distinct = ⟨distinct⟩ := foldl_insert_of_nodup nodup
    rw [← members_ofList, whole]
  rw [members_foldl_insert, List.eraseDups_append, List.eraseDups_append]
  show _ ++ (List.removeAll (List.eraseDups (operators.filter fun operator =>
    !listed.contains operator)) listed).eraseDups = _
  rw [fresh, settled (nodup_eraseDups _)]
  rfl

/-- A text that is not empty is read as the set of its operators. -/
theorem parse?_text_eq {set : OperatorSet} (nonempty : set.text ≠ []) :
    parse? set.text = some ⟨set.members.eraseDups⟩ := by
  have several : set.text.isEmpty = false := List.isEmpty_eq_false_iff.mpr nonempty
  rw [parse?, several, text, mapM_ofSymbol?_eq_some_iff.mpr rfl, Option.map_some,
    ← members_ofList]
  rfl

theorem text_ne_nil_iff (set : OperatorSet) : set.text ≠ [] ↔ set.members ≠ [] :=
  not_congr List.map_eq_nil_iff

/-- A set is read back from its text exactly if it is not empty and has no duplicates. -/
theorem parse?_text_iff (set : OperatorSet) : parse? set.text = some set ↔ set.Written :=
  ⟨written_of_parse?, parse?_text⟩

/-- However a set is made, it has the operators that its document lists, as they are listed,
and then the others that went into it, each once, in the order in which they are first seen.
So it has an operator twice exactly if its document lists one twice. Otherwise it has four
operators at most, each of those that went into it in the order in which they are first
seen, and it is read back from its text, if the text is not empty. In any case what is read
back are these operators. -/
theorem made_sets_are_read_back_iff {construction : Construction} {set : OperatorSet}
    (made : construction.make? = some set) :
    let listed := construction.listed
    let operators := listed ++ construction.added
    (construction.document? = none → listed = []) ∧
    set.members = listed ++ (construction.added.filter (· ∉ listed)).eraseDups ∧
    (set.members.Nodup ↔ listed.Nodup) ∧
    (listed.Nodup → set.members = operators.eraseDups ∧ set.members.length ≤ 4) ∧
    (parse? set.text = some set ↔ set.text ≠ [] ∧ listed.Nodup) ∧
    (set.text ≠ [] → parse? set.text = some ⟨operators.eraseDups⟩) := by
  intro listed operators
  have known : set = construction.added.foldl insert ⟨listed⟩ :=
    Construction.eq_foldl_insert made
  have duplicates : set.members.Nodup ↔ listed.Nodup := by
    rw [known]
    exact nodup_foldl_insert_iff construction.added listed
  refine ⟨?_, ?_, duplicates, ?_, ?_, ?_⟩
  · intro undocumented
    show (construction.document?.bind _).getD [] = []
    rw [undocumented]
    rfl
  · have others : (construction.added.filter fun operator => !contains ⟨listed⟩ operator) =
        construction.added.filter (· ∉ listed) := by
      apply List.filter_congr
      intro operator _
      simp [contains]
    rw [known, members_foldl_insert, others]
  · intro distinct
    refine ⟨?_, length_le_four (duplicates.mpr distinct)⟩
    rw [known, foldl_insert_eq_ofList distinct, members_ofList]
  · rw [parse?_text_iff, text_ne_nil_iff, ← duplicates]
    rfl
  · intro nonempty
    rw [parse?_text_eq nonempty, known, eraseDups_foldl_insert]

/-- A document that lists an operator once, and insertions of others and of this one. -/
theorem made_sets_are_read_back_iff_inserted :
    let construction : Construction := .insert (.insert (.insert
      (.ofDocument (.list [.text "Mul"])) .div) .mul) .add
    construction.make? = some ⟨[.mul, .div, .add]⟩ ∧
      OperatorSet.text ⟨[.mul, .div, .add]⟩ = ['*', '/', '+'] ∧
      parse? ['*', '/', '+'] = some ⟨[.mul, .div, .add]⟩ := by
  intro construction
  have made : construction.make? = some ⟨[.mul, .div, .add]⟩ := by decide
  obtain ⟨-, -, -, -, readBack, -⟩ := made_sets_are_read_back_iff made
  exact ⟨made, rfl, readBack.mpr (by decide)⟩

/-- A document that lists an operator twice is read as it is, also as part of settings that
are valid. The set has the operator twice, and another set is read from its text. -/
theorem listed_twice :
    let document := Document.list [.text "Add", .text "Add"]
    let set : OperatorSet := ⟨[.add, .add]⟩
    let settings := { NodeSettings.standard with operators := set }
    (Construction.ofDocument document).make? = some set ∧
      Document.nodeSettings? (Document.ofNodeSettings settings) = some settings ∧
      settings.violations = [] ∧ ¬ set.members.Nodup ∧ set.text = ['+', '+'] ∧
      parse? set.text = some ⟨[.add]⟩ ∧ parse? set.text ≠ some set := by
  decide +kernel

end ArithmeticCloud.OperatorSet
