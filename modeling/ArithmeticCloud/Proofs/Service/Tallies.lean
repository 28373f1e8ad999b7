import ArithmeticCloud.Proofs.Arithmetic.Expressions
import ArithmeticCloud.Proofs.Permutations
import ArithmeticCloud.Proofs.Wire.Grammar
import ArithmeticCloud.Service.Statistics

/-!
Contract: the statistics count the operators that stand alone in compute requests.

Owns:
- `mentions`, the words of a line behind a compute keyword that are one operator and nothing
  else, and `tally`, their number in many lines;
- recording lines adds their tally, whatever their order;
- in a line with an expression, the words that count are the operators of its steps;
- the order in which counts are shown.

Does not own: the grammar of expressions, and which lines are recorded.
-/

namespace ArithmeticCloud.Service

open Text Wire

/-! ## Words that count -/

/-- Whether the first word of a line is the keyword of a compute request, with or without its
mark. -/
def HasKeyword (line : String) : Prop :=
  (words line.toList).head? = some "compute".toList ∨
    (words line.toList).head? = some "!compute".toList

instance (line : String) : Decidable (HasKeyword line) := inferInstanceAs (Decidable (_ ∨ _))

/-- How many of the words behind the keyword are the symbol of an operator and nothing else. -/
def mentions (operator : Operator) (line : String) : Nat :=
  if HasKeyword line then (words line.toList).tail.count [operator.symbol] else 0

def tally (operator : Operator) (lines : List String) : Nat :=
  (lines.map (mentions operator)).sum

theorem tally_of_perm (operator : Operator) {lines others : List String}
    (same : lines.Perm others) : tally operator lines = tally operator others :=
  (same.map (mentions operator)).sum_nat

theorem tally_append (operator : Operator) (lines others : List String) :
    tally operator (lines ++ others) = tally operator lines + tally operator others := by
  rw [tally, List.map_append, List.sum_append]
  rfl

namespace Statistics

theorem occurrences_eq_count (operator : Operator) (parts : List Word) :
    occurrences operator parts = parts.count [operator.symbol] := by
  rw [occurrences, List.count_eq_countP]
  apply List.countP_congr
  intro word _
  rw [beq_iff_eq, beq_iff_eq, Operator.parse?_eq_some_iff]

theorem takeKeyword?_eq_compute_iff {parts rest : List Word} :
    takeKeyword? parts = some ("compute", rest) ↔
      ∃ first, parts = first :: rest ∧ (first = "compute".toList ∨ first = "!compute".toList) := by
  have markless : dropMark "compute".toList = "compute".toList := by decide
  have keyword (first : Word) : String.ofList (dropMark first) = "compute" ↔
      first = "compute".toList ∨ first = "!compute".toList := by
    rw [← String.toList_inj, String.toList_ofList, dropMark_eq_iff markless]
    exact Iff.rfl
  cases parts with
  | nil =>
      constructor
      · nofun
      · rintro ⟨_, nothing, -⟩
        cases nothing
  | cons first others =>
      rw [takeKeyword?, Reader.word, Option.map_some, Option.some.injEq, Prod.mk.injEq, keyword]
      constructor
      · rintro ⟨named, rfl⟩
        exact ⟨first, rfl, named⟩
      · rintro ⟨_, same, named⟩
        obtain ⟨rfl, rfl⟩ := List.cons.inj same
        exact ⟨named, rfl⟩

theorem countedWords_eq (line : String) :
    countedWords line = if HasKeyword line then (words line.toList).tail else [] := by
  unfold countedWords
  split
  · next rest taken =>
      obtain ⟨first, split, named⟩ := takeKeyword?_eq_compute_iff.mp taken
      have keyword : HasKeyword line := by
        unfold HasKeyword
        rw [split, List.head?_cons, Option.some.injEq, Option.some.injEq]
        exact named
      rw [if_pos keyword, split, List.tail_cons]
  · next other =>
      rw [if_neg]
      intro keyword
      have found : ∃ first, (words line.toList).head? = some first ∧
          (first = "compute".toList ∨ first = "!compute".toList) := by
        rcases keyword with named | named
        · exact ⟨_, named, .inl rfl⟩
        · exact ⟨_, named, .inr rfl⟩
      obtain ⟨first, isFirst, named⟩ := found
      obtain ⟨rest, split⟩ := List.head?_eq_some_iff.mp isFirst
      exact other rest (takeKeyword?_eq_compute_iff.mpr ⟨first, split, named⟩)

/-! ## Lines in sequence -/

theorem count_record (statistics : Statistics) (line : String) (operator : Operator) :
    (statistics.record line).count operator =
      statistics.count operator + UInt64.ofNat (mentions operator line) := by
  show statistics.count operator + UInt64.ofNat (occurrences operator (countedWords line)) = _
  rw [occurrences_eq_count, countedWords_eq, mentions]
  split
  · rfl
  · rfl

def recordAll (statistics : Statistics) (lines : List String) : Statistics :=
  lines.foldl record statistics

theorem count_recordAll (statistics : Statistics) (lines : List String) (operator : Operator) :
    (statistics.recordAll lines).count operator =
      statistics.count operator + UInt64.ofNat (tally operator lines) := by
  induction lines generalizing statistics with
  | nil => exact (UInt64.add_zero _).symm
  | cons line others inductionHypothesis =>
      show ((statistics.record line).recordAll others).count operator = _
      rw [inductionHypothesis, count_record, UInt64.add_assoc, ← UInt64.ofNat_add]
      rfl

theorem toNat_count_recordAll {lines : List String} {operator : Operator}
    (few : tally operator lines < 2 ^ 64) :
    ((empty.recordAll lines).count operator).toNat = tally operator lines := by
  have fits : tally operator lines < UInt64.size := few
  rw [count_recordAll]
  show ((0 : UInt64) + UInt64.ofNat (tally operator lines)).toNat = _
  rw [UInt64.zero_add, UInt64.toNat_ofNat_of_lt' fits]

/-- Counts do not depend on the order of the lines. -/
theorem recordAll_of_perm (statistics : Statistics) {lines others : List String}
    (same : lines.Perm others) : statistics.recordAll lines = statistics.recordAll others := by
  refine congrArg Statistics.mk (funext fun operator => ?_)
  show (statistics.recordAll lines).count operator = (statistics.recordAll others).count operator
  rw [count_recordAll, count_recordAll, tally_of_perm operator same]

end Statistics

/-- The number of words of the lines. -/
def wordCount (lines : List String) : Nat := (lines.map fun line => (words line.toList).length).sum

theorem mentions_le (operator : Operator) (line : String) :
    mentions operator line ≤ (words line.toList).length := by
  unfold mentions
  split
  · have counted : (words line.toList).tail.count [operator.symbol] ≤
        (words line.toList).tail.length := List.count_le_length
    rw [List.length_tail] at counted
    omega
  · exact Nat.zero_le _

theorem tally_le (operator : Operator) (lines : List String) :
    tally operator lines ≤ wordCount lines := by
  induction lines with
  | nil => exact Nat.le_refl 0
  | cons line others inductionHypothesis =>
      have counted := mentions_le operator line
      simp only [tally, wordCount, List.map_cons, List.sum_cons] at inductionHypothesis ⊢
      omega

/-! ## Lines with an expression -/

theorem count_of_stepsSpelled {parts : List Word} {steps : List (Operator × Int64)}
    (spelled : Expression.StepsSpelled parts steps) (operator : Operator) :
    parts.count [operator.symbol] = (steps.map Prod.fst).count operator := by
  induction spelled with
  | nil => rfl
  | @cons first operand numeral rest steps isOperand later inductionHypothesis =>
      have same : [first.symbol] = [operator.symbol] ↔ first = operator := by
        cases first <;> cases operator <;> decide
      have noOperator : numeral ≠ [operator.symbol] := by
        rintro rfl
        exact operator.not_isInteger_symbol operand.toInt isOperand
      rw [List.map_cons, List.count_cons, List.count_cons, List.count_cons, inductionHypothesis]
      simp only [beq_iff_eq, if_neg noOperator, same, Nat.add_zero]

/-- Signs of operands do not count. -/
theorem mentions_of_expression {line : String} {expression : Expression}
    (keyword : HasKeyword line)
    (read : Expression.ofWords? (words line.toList).tail = some expression) (operator : Operator) :
    mentions operator line = (expression.steps.map Prod.fst).count operator := by
  obtain ⟨numeral, rest, split, isFirst, steps⟩ := Expression.ofWords?_eq_some_iff.mp read
  have noOperator : numeral ≠ [operator.symbol] := by
    rintro rfl
    exact operator.not_isInteger_symbol expression.first.toInt isFirst
  rw [mentions, if_pos keyword, split, List.count_cons_of_ne noOperator,
    count_of_stepsSpelled steps]

/-! ## The order of counts -/

namespace Statistics

/-- The operators as they are shown: no smaller count first, and equal counts in the fixed order
of the operators. -/
def Precedes (earlier later : Operator × UInt64) : Prop :=
  later.2 < earlier.2 ∨
    later.2 = earlier.2 ∧ Operator.all.idxOf earlier.1 < Operator.all.idxOf later.1

theorem sorted_perm (statistics : Statistics) :
    statistics.sorted.Perm
      (Operator.all.map fun operator => (operator, statistics.count operator)) :=
  List.mergeSort_perm _ _

theorem idxOf_lt_of_sublist {first second : Operator}
    (inOrder : [first, second].Sublist Operator.all) :
    Operator.all.idxOf first < Operator.all.idxOf second := by
  revert inOrder
  cases first <;> cases second <;> decide

theorem pairwise_sorted (statistics : Statistics) : statistics.sorted.Pairwise Precedes := by
  have trans (first second third : Operator × UInt64)
      (noMore : decide (second.2 ≤ first.2) = true) (nor : decide (third.2 ≤ second.2) = true) :
      decide (third.2 ≤ first.2) = true :=
    decide_eq_true (UInt64.le_trans (of_decide_eq_true nor) (of_decide_eq_true noMore))
  have total (first second : Operator × UInt64) :
      (decide (second.2 ≤ first.2) || decide (first.2 ≤ second.2)) = true := by
    simpa using UInt64.le_total second.2 first.2
  apply (pairwise_mergeSort_stable trans total _).imp
  intro earlier later ordered
  have noMore : later.2 ≤ earlier.2 := of_decide_eq_true ordered.1
  by_cases noLess : earlier.2 ≤ later.2
  · right
    have inOrder := (ordered.2 (decide_eq_true noLess)).map Prod.fst
    simp only [List.map_map, Function.comp_def, List.map_cons, List.map_nil, List.map_id']
      at inOrder
    exact ⟨UInt64.le_antisymm noMore noLess, idxOf_lt_of_sublist inOrder⟩
  · left
    exact UInt64.not_le.mp noLess

end Statistics

end ArithmeticCloud.Service
