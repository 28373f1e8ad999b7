import ArithmeticCloud.Arithmetic.Expression
import ArithmeticCloud.Proofs.Arithmetic.OperatorSets
import ArithmeticCloud.Proofs.Text.NumeralForms

/-!
Contract: which texts are expressions, and of which.

Owns:
- the grammar `operand (operator operand)*`, said of the words of a text;
- reading accepts the texts of the grammar and no others, and takes every word of them. A sign
  in front of digits belongs to an operand; a sign alone is an operator and stands at the places
  of operators only;
- the text of an expression, which is read back.

Does not own: which words are numerals.
-/

namespace ArithmeticCloud

open Text

/-- A sign without digits is no numeral. -/
theorem Operator.not_isInteger_symbol (operator : Operator) (value : Int) :
    ¬ IsInteger [operator.symbol] value := by
  rw [← integer?_eq_some_iff]
  have refused : integer? [operator.symbol] = none := by cases operator <;> rfl
  rw [refused]
  exact nofun

namespace Expression

/-! ## The grammar -/

/-- The words are operators and operands in turn. An operator is its symbol and nothing else; an
operand is a numeral, which may have a sign of its own. -/
inductive StepsSpelled : List Word → List (Operator × Int64) → Prop where
  | nil : StepsSpelled [] []
  | cons {operator : Operator} {operand : Int64} {numeral : Word} {rest : List Word}
      {steps : List (Operator × Int64)} (isOperand : IsInteger numeral operand.toInt)
      (later : StepsSpelled rest steps) :
      StepsSpelled ([operator.symbol] :: numeral :: rest) ((operator, operand) :: steps)

/-- The words are an operand, and operators and operands in turn behind it. -/
def Spelled (expression : Expression) (parts : List Word) : Prop :=
  ∃ numeral rest, parts = numeral :: rest ∧ IsInteger numeral expression.first.toInt ∧
    StepsSpelled rest expression.steps

theorem steps?_eq_some_iff {parts : List Word} {steps : List (Operator × Int64)} :
    steps? parts = some steps ↔ StepsSpelled parts steps := by
  induction parts using steps?.induct generalizing steps with
  | case1 =>
      constructor
      · intro read
        obtain rfl := Option.some.inj read
        exact .nil
      · intro spelled
        cases spelled
        rfl
  | case2 word =>
      constructor
      · intro read
        cases read
      · intro spelled
        cases spelled
  | case3 operatorWord operandWord rest inductionHypothesis =>
      simp only [steps?, Option.bind_eq_bind, Option.bind_eq_some_iff, Option.pure_def,
        Option.some.injEq, Operator.parse?_eq_some_iff, int64?_eq_some_iff]
      constructor
      · rintro ⟨operator, rfl, operand, isOperand, others, read, rfl⟩
        exact .cons isOperand (inductionHypothesis.mp read)
      · intro spelled
        cases spelled with
        | @cons operator operand _ _ others isOperand later =>
            exact ⟨operator, rfl, operand, isOperand, others, inductionHypothesis.mpr later, rfl⟩

theorem ofWords?_eq_some_iff {parts : List Word} {expression : Expression} :
    ofWords? parts = some expression ↔ expression.Spelled parts := by
  cases parts with
  | nil =>
      constructor
      · intro read
        cases read
      · rintro ⟨numeral, rest, nothing, -⟩
        cases nothing
  | cons numeral rest =>
      simp only [ofWords?, Option.bind_eq_bind, Option.bind_eq_some_iff, Option.pure_def,
        Option.some.injEq, int64?_eq_some_iff, steps?_eq_some_iff]
      constructor
      · rintro ⟨first, isFirst, steps, spelled, rfl⟩
        exact ⟨numeral, rest, rfl, isFirst, spelled⟩
      · rintro ⟨_, _, same, isFirst, spelled⟩
        obtain ⟨rfl, rfl⟩ := List.cons.inj same
        exact ⟨expression.first, isFirst, expression.steps, spelled, rfl⟩

theorem parse?_eq_some_iff {text : List Char} {expression : Expression} :
    parse? text = some expression ↔
      ∃ parts, SplitsInto text parts ∧ expression.Spelled parts := by
  rw [parse?, ofWords?_eq_some_iff]
  constructor
  · intro spelled
    exact ⟨words text, splitsInto_words text, spelled⟩
  · rintro ⟨parts, split, spelled⟩
    rwa [words_eq_iff.mpr split]

/-! ## Places of operators and operands -/

theorem StepsSpelled.length_eq {parts : List Word} {steps : List (Operator × Int64)}
    (spelled : StepsSpelled parts steps) : parts.length = 2 * steps.length := by
  induction spelled with
  | nil => rfl
  | cons isOperand later inductionHypothesis =>
      rw [List.length_cons, List.length_cons, List.length_cons, inductionHypothesis]
      omega

/-- Operators stand at every second place, from the first word on. -/
theorem StepsSpelled.isOperator_iff {parts : List Word} {steps : List (Operator × Int64)}
    (spelled : StepsSpelled parts steps) {place : Nat} {word : Word}
    (found : parts[place]? = some word) :
    place % 2 = 0 ↔ ∃ operator : Operator, word = [operator.symbol] := by
  induction spelled generalizing place with
  | nil => cases found
  | @cons operator operand numeral rest steps isOperand later inductionHypothesis =>
      match place with
      | 0 =>
          obtain rfl := Option.some.inj found
          exact ⟨fun _ => ⟨operator, rfl⟩, fun _ => rfl⟩
      | 1 =>
          obtain rfl := Option.some.inj found
          constructor
          · intro even
            cases even
          · rintro ⟨other, rfl⟩
            exact absurd isOperand (other.not_isInteger_symbol operand.toInt)
      | place + 2 =>
          rw [← inductionHypothesis found]
          omega

theorem Spelled.length_eq {expression : Expression} {parts : List Word}
    (spelled : expression.Spelled parts) : parts.length = 2 * expression.subOperations + 1 := by
  obtain ⟨numeral, rest, rfl, -, steps⟩ := spelled
  rw [List.length_cons, steps.length_eq, subOperations]

theorem Spelled.isOperator_iff {expression : Expression} {parts : List Word}
    (spelled : expression.Spelled parts) {place : Nat} {word : Word}
    (found : parts[place]? = some word) :
    place % 2 = 1 ↔ ∃ operator : Operator, word = [operator.symbol] := by
  obtain ⟨numeral, rest, rfl, isFirst, steps⟩ := spelled
  cases place with
  | zero =>
      obtain rfl := Option.some.inj found
      constructor
      · intro odd
        cases odd
      · rintro ⟨operator, rfl⟩
        exact absurd isFirst (operator.not_isInteger_symbol expression.first.toInt)
  | succ place =>
      rw [← steps.isOperator_iff found]
      omega

/-! ## The text of an expression -/

/-- The words that the text of the steps is made of. -/
def stepWords (steps : List (Operator × Int64)) : List Word :=
  steps.flatMap fun step => [[step.1.symbol], ofInt64 step.2]

theorem stepsSpelled_stepWords (steps : List (Operator × Int64)) :
    StepsSpelled (stepWords steps) steps := by
  induction steps with
  | nil => exact .nil
  | cons step others inductionHypothesis =>
      have isOperand : IsInteger (ofInt64 step.2) step.2.toInt :=
        int64?_eq_some_iff.mp (int64?_ofInt64 step.2)
      exact .cons isOperand inductionHypothesis

theorem unbroken_symbol (operator : Operator) : Unbroken [operator.symbol] := by
  cases operator <;> decide

theorem words_text (expression : Expression) :
    words expression.text = ofInt64 expression.first :: stepWords expression.steps := by
  have spaced : expression.steps.flatMap stepText =
      (stepWords expression.steps).flatMap (' ' :: ·) := by
    have each : stepText = fun step => [[step.1.symbol], ofInt64 step.2].flatMap (' ' :: ·) := by
      funext step
      simp [stepText]
    rw [stepWords, List.flatMap_assoc, each]
  have unbroken : ∀ word ∈ stepWords expression.steps, Unbroken word := by
    intro word member
    obtain ⟨step, -, inStep⟩ := List.mem_flatMap.mp member
    rw [List.mem_cons, List.mem_singleton] at inStep
    rcases inStep with rfl | rfl
    · exact unbroken_symbol step.1
    · exact unbroken_numeral step.2.toInt
  rw [text, spaced]
  exact words_flatMap_spaced (unbroken_numeral expression.first.toInt) unbroken

theorem parse?_text (expression : Expression) : parse? expression.text = some expression := by
  rw [parse?, ofWords?_eq_some_iff, words_text]
  exact ⟨ofInt64 expression.first, stepWords expression.steps, rfl,
    int64?_eq_some_iff.mp (int64?_ofInt64 expression.first),
    stepsSpelled_stepWords expression.steps⟩

/-- A text is read as an expression exactly if its words spell this expression. No word is left
unread then, and the words at odd places, counted from 0, are the operators: there a sign stands
alone, and anywhere else it is part of an operand. The text of every expression is read as this
expression, so that writing an expression that was read and reading it again changes nothing. -/
theorem expressions_are_read_as_spelled :
    (∀ text expression, parse? text = some expression ↔
      ∃ parts, SplitsInto text parts ∧ expression.Spelled parts) ∧
    (∀ text expression, parse? text = some expression →
      (words text).length = 2 * expression.subOperations + 1 ∧
        ∀ (place : Nat) (word : Word), (words text)[place]? = some word →
          (place % 2 = 1 ↔ ∃ operator : Operator, word = [operator.symbol])) ∧
    (∀ expression, parse? expression.text = some expression) ∧
    ∀ text, ((parse? text).map Expression.text).bind parse? = parse? text := by
  refine ⟨fun text expression => parse?_eq_some_iff, ?_, parse?_text, ?_⟩
  · intro text expression read
    have spelled : expression.Spelled (words text) := ofWords?_eq_some_iff.mp read
    exact ⟨spelled.length_eq, fun place word found => spelled.isOperator_iff found⟩
  · intro text
    cases parse? text with
    | none => rfl
    | some expression => exact parse?_text expression

/-- Signs at the places of operators and in front of operands, under blanks of several kinds. -/
theorem expressions_are_read_as_spelled_signed :
    parse? "\t-7 - -7 \n + +07 ".toList = some ⟨-7, [(.sub, -7), (.add, 7)]⟩ ∧
      (words "\t-7 - -7 \n + +07 ".toList).length = 5 := by
  have read : parse? "\t-7 - -7 \n + +07 ".toList = some ⟨-7, [(.sub, -7), (.add, 7)]⟩ := by
    decide +kernel
  exact ⟨read, (expressions_are_read_as_spelled.2.1 _ _ read).1⟩

end Expression

end ArithmeticCloud
