import ArithmeticCloud.Arithmetic.Operator
import ArithmeticCloud.Wire.Message

/-!
Contract: how often each operator appeared in compute requests, valid or not.

Owns: which words of a request count, the totals, their order by frequency and
their text.

Does not own: whether a request is allowed.
-/

namespace ArithmeticCloud.Service

open Text Wire

/-- The number of times that each operator was seen. -/
structure Statistics where
  count : Operator → UInt64

namespace Statistics

def empty : Statistics := ⟨fun _ => 0⟩

/-- The words of a request that count: those after the keyword of a compute
request, with or without its mark. -/
def countedWords (line : String) : List Word :=
  match takeKeyword? (words line.toList) with
  | some ("compute", rest) => rest
  | _ => []

/-- How many of the words are exactly the operator's symbol. -/
def occurrences (operator : Operator) (words : List Word) : Nat :=
  words.countP fun word => Operator.parse? word == some operator

def record (statistics : Statistics) (line : String) : Statistics :=
  ⟨fun operator =>
    statistics.count operator + UInt64.ofNat (occurrences operator (countedWords line))⟩

/-- The operators by falling count, those with equal counts in their fixed
order. -/
def sorted (statistics : Statistics) : List (Operator × UInt64) :=
  (Operator.all.map fun operator => (operator, statistics.count operator)).mergeSort
    fun left right => right.2 ≤ left.2

def rowText (row : Operator × UInt64) : String :=
  String.ofList (row.1.symbol :: ' ' :: ofWord64 row.2)

/-- One line for each operator. -/
def text (statistics : Statistics) : String :=
  "\n".intercalate (statistics.sorted.map rowText)

end Statistics

end ArithmeticCloud.Service
