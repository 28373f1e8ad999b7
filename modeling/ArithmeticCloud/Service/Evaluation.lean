import ArithmeticCloud.Arithmetic.Expression
import ArithmeticCloud.Service.Process

/-!
Contract: the evaluation of an expression over the nodes, and its price.

Owns:
- the fold: each sub-operation goes to one picked node, with the value so far as
  its left operand. It ends at a division by zero, at an operator that no node
  can be given, and at a node that fails, which is taken offline and not retried;
- the usage charged to a node for each digit of its answers;
- admission by balance, and the charge for every sub-operation handed to a node.

Does not own: which node is picked.
-/

namespace ArithmeticCloud.Service

open Network Text

/-- Credits charged for a sub-operation, and usage charged for a digit. -/
def costPerOperation : Int64 := 50

def noNodesText : String := "No nodes available for at least one operation."

def notEnoughCreditsText : String :=
  "You don't have enough credits to perform this operation."

inductive EvaluationResult where
  | value (number : Int64)
  | divisionByZero
  /-- No node could be given some operator, or the node given it failed. -/
  | noNodes
deriving DecidableEq, Repr

def EvaluationResult.text : EvaluationResult → String
  | .value number => String.ofList (ofInt64 number)
  | .divisionByZero => String.ofList Reply.divisionText
  | .noNodes => noNodesText

structure Evaluation where
  result : EvaluationResult
  /-- The number of sub-operations handed to a node, answered or not. -/
  attempted : Nat
deriving DecidableEq, Repr

/-- The usage of a node for one answer. -/
def usageOf (number : Int64) : UInt64 :=
  50 * UInt64.ofNat (Reply.value number).digitCount

/-- Folds the steps from a value on. -/
def evaluateFrom (attempted : Nat) (value : Int64) :
    List (Operator × Int64) → Process Evaluation
  | [] => .done ⟨.value value, attempted⟩
  | (operator, operand) :: others => do
      match ← Process.query (.pick operator) with
      | none => return ⟨.noNodes, attempted⟩
      | some node =>
          match ← Process.query (.compute node value operator operand) with
          | .ok (.value number) =>
              Process.query (.addUsage node (usageOf number))
              evaluateFrom (attempted + 1) number others
          | .ok .divisionByZero => return ⟨.divisionByZero, attempted + 1⟩
          | .error _ =>
              Process.query (.markOffline node)
              return ⟨.noNodes, attempted + 1⟩

def evaluate (expression : Expression) : Process Evaluation :=
  evaluateFrom 0 expression.first expression.steps

inductive ComputeOutcome where
  | notEnoughCredits
  | evaluated (result : EvaluationResult)
deriving DecidableEq, Repr

def ComputeOutcome.text : ComputeOutcome → String
  | .notEnoughCredits => notEnoughCreditsText
  | .evaluated result => result.text

def price (operations : Nat) : Int64 := costPerOperation * Int64.ofNat operations

/-- The user must be able to pay for every step, and pays for those attempted. -/
def computeFor (user : String) (expression : Expression) : Process ComputeOutcome := do
  let balance ← Process.query (.credits user)
  if balance.getD 0 < price expression.subOperations then
    return .notEnoughCredits
  else
    let evaluation ← evaluate expression
    if 0 < evaluation.attempted then
      let _ ← Process.query (.adjust user (-price evaluation.attempted))
    return .evaluated evaluation.result

end ArithmeticCloud.Service
