import ArithmeticCloud.Arithmetic.Operator

/-!
Contract: expressions `operand (operator operand)*`, read strictly left to right.

Owns: the type, its reading from words and its text.

Does not own: evaluation, which needs nodes.
-/

namespace ArithmeticCloud

open Text

/-- A first operand and the sub-operations that follow it. -/
structure Expression where
  first : Int64
  steps : List (Operator × Int64)
deriving DecidableEq, Repr

namespace Expression

def subOperations (expression : Expression) : Nat := expression.steps.length

/-- Reads operators and operands in turn, until no word is left. -/
def steps? : List Word → Option (List (Operator × Int64))
  | [] => some []
  | [_] => none
  | operatorWord :: operandWord :: rest => do
      let operator ← Operator.parse? operatorWord
      let operand ← int64? operandWord
      let others ← steps? rest
      return (operator, operand) :: others

/-- Reads an expression that takes up all of the words. -/
def ofWords? : List Word → Option Expression
  | [] => none
  | firstWord :: rest => do
      let first ← int64? firstWord
      let steps ← steps? rest
      return ⟨first, steps⟩

def parse? (text : List Char) : Option Expression := ofWords? (words text)

/-- The text of one sub-operation, with a blank in front. -/
def stepText (step : Operator × Int64) : List Char :=
  ' ' :: step.1.symbol :: ' ' :: ofInt64 step.2

def text (expression : Expression) : List Char :=
  ofInt64 expression.first ++ expression.steps.flatMap stepText

end Expression

end ArithmeticCloud
