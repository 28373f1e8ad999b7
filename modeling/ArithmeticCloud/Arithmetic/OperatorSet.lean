import ArithmeticCloud.Arithmetic.Operator

/-!
Contract: the operators that a node supports.

Owns: insertion in first-seen order with duplicates ignored, membership, and the
text form, in which the symbols stand next to each other. The empty set has a
text but is not read back from it.

Does not own: the settings document, which lists operators one by one and may
repeat them.
-/

namespace ArithmeticCloud

open Text

structure OperatorSet where
  members : List Operator
deriving DecidableEq, Repr

namespace OperatorSet

def empty : OperatorSet := ⟨[]⟩

def contains (set : OperatorSet) (operator : Operator) : Bool :=
  set.members.contains operator

def isEmpty (set : OperatorSet) : Bool := set.members.isEmpty

def size (set : OperatorSet) : Nat := set.members.length

/-- Adds an operator at the end unless it is there already. -/
def insert (set : OperatorSet) (operator : Operator) : OperatorSet :=
  if set.contains operator then set else ⟨set.members ++ [operator]⟩

/-- Inserts from left to right into the empty set. -/
def ofList (operators : List Operator) : OperatorSet := operators.foldl insert empty

/-- All four operators. -/
def all : OperatorSet := ofList Operator.all

def text (set : OperatorSet) : Word := set.members.map Operator.symbol

/-- Every character must be an operator's symbol, and there must be one. -/
def parse? (word : Word) : Option OperatorSet :=
  if word.isEmpty then none else (word.mapM Operator.ofSymbol?).map ofList

theorem members_insert (set : OperatorSet) (operator : Operator) :
    (set.insert operator).members =
      if set.contains operator then set.members else set.members ++ [operator] := by
  unfold insert
  split <;> rfl

end OperatorSet

end ArithmeticCloud
