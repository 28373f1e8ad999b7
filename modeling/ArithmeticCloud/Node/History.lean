import ArithmeticCloud.Arithmetic.Operator
import ArithmeticCloud.Text.Columns

/-!
Contract: the sub-operations that a node has evaluated.

Owns:
- one record, its line `timestamp a operator b = result` and the reading of that
  line, in which the columns before the result are separated by single spaces;
- the history, which drops its oldest record when it is full. A history of
  capacity zero is never full.

Does not own: clocks, and the room for the records, which is reserved when a history
is made. For a capacity that cannot be reserved there is no history.
-/

namespace ArithmeticCloud.Node

open Text

structure ComputeRecord where
  timestamp : Int64
  left : Int64
  operator : Operator
  right : Int64
  result : Reply
deriving DecidableEq, Repr

namespace ComputeRecord

/-- The record without its time: `a operator b = result`. -/
def untimedText (record : ComputeRecord) : List Char :=
  ofInt64 record.left ++ ' ' :: record.operator.symbol :: ' ' :: ofInt64 record.right ++
    ' ' :: '=' :: ' ' :: record.result.text

def text (record : ComputeRecord) : List Char :=
  ofInt64 record.timestamp ++ ' ' :: record.untimedText

/-- Reads the line of a record, with blanks around it ignored. -/
def parse? (line : List Char) : Option ComputeRecord :=
  match columns ' ' 5 (trim line) with
  | [timestamp, left, operator, right, ['='], result] => do
      return ⟨← int64? timestamp, ← int64? left, ← Operator.parse? operator, ← int64? right,
        ← Reply.parse? result⟩
  | _ => none

end ComputeRecord

structure History where
  capacity : Nat
  /-- Oldest first. -/
  records : List ComputeRecord
deriving DecidableEq, Repr

namespace History

def empty (capacity : Nat) : History := ⟨capacity, []⟩

/-- Adds a record, after dropping the oldest if the history is exactly full. -/
def push (history : History) (record : ComputeRecord) : History :=
  if history.records.length = history.capacity then
    { history with records := history.records.drop 1 ++ [record] }
  else
    { history with records := history.records ++ [record] }

def size (history : History) : Nat := history.records.length

/-- The latest records, oldest first. -/
def latest (history : History) (count : Nat) : List ComputeRecord :=
  history.records.drop (history.size - count)

end History

end ArithmeticCloud.Node
