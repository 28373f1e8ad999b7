import ArithmeticCloud.Text.Numeral

/-!
Contract: the four binary operators and the result of one sub-operation.

Owns:
- `Operator`, its symbol, its byte and its fixed order `+ - * /`;
- `Operator.apply` on signed 64-bit integers, which wraps on overflow and
  truncates a quotient toward zero;
- `Reply`, its text and its digit count.

Does not own: which node applies an operator, or what an answer costs.
-/

namespace ArithmeticCloud

open Text

inductive Operator where
  | add
  | sub
  | mul
  | div
deriving DecidableEq, Repr

namespace Operator

/-- Every operator, in the order in which lists of operators are shown. -/
def all : List Operator := [.add, .sub, .mul, .div]

def symbol : Operator → Char
  | .add => '+'
  | .sub => '-'
  | .mul => '*'
  | .div => '/'

def ofSymbol? (c : Char) : Option Operator :=
  all.find? fun operator => operator.symbol == c

def byte (operator : Operator) : UInt8 := UInt8.ofNat operator.symbol.toNat

def ofByte? (code : UInt8) : Option Operator :=
  all.find? fun operator => operator.byte == code

/-- An operator is read from exactly its one symbol. -/
def parse? : Word → Option Operator
  | [c] => ofSymbol? c
  | _ => none

def title : Operator → String
  | .add => "Add"
  | .sub => "Sub"
  | .mul => "Mul"
  | .div => "Div"

theorem ofSymbol?_symbol (operator : Operator) : ofSymbol? operator.symbol = some operator := by
  cases operator <;> rfl

theorem mem_all (operator : Operator) : operator ∈ all := by
  cases operator <;> simp [all]

end Operator

/-- What a node answers to one sub-operation. Division by zero is a result, not
a failure. -/
inductive Reply where
  | value (number : Int64)
  | divisionByZero
deriving DecidableEq, Repr

namespace Reply

def divisionText : Word := "Error: division by 0".toList

/-- How many decimal digits the answer has, its sign left out. -/
def digitCount : Reply → Nat
  | .value number => (digits number.toInt.natAbs).length
  | .divisionByZero => 0

def text : Reply → Word
  | .value number => ofInt64 number
  | .divisionByZero => divisionText

/-- Reads an answer with blanks around it ignored. -/
def parse? (line : List Char) : Option Reply :=
  if trim line = divisionText then
    some .divisionByZero
  else
    (int64? (trim line)).map .value

end Reply

/-- `a operator b` in 64-bit arithmetic. -/
def Operator.apply : Operator → Int64 → Int64 → Reply
  | .add, a, b => .value (a + b)
  | .sub, a, b => .value (a - b)
  | .mul, a, b => .value (a * b)
  | .div, a, b => if b = 0 then .divisionByZero else .value (a / b)

end ArithmeticCloud
