import ArithmeticCloud.Arithmetic.OperatorSet
import ArithmeticCloud.Network.AddressText

/-!
Contract: the fields of protocol messages.

Owns:
- the single-word types and their reading and writing;
- `Reader`, a cursor step that either takes a value off the front of the words
  or leaves them alone;
- lists, which take items for as long as there is one.

Does not own: keywords and the layout of whole messages.
-/

namespace ArithmeticCloud.Wire

open Text Network

/-! ## Values of one word -/

inductive Scalar where
  | word16
  | word32
  | word64
  | integer
  | endpoint
  | operator
  | operators
  | text
deriving DecidableEq, Repr

namespace Scalar

abbrev Value : Scalar → Type
  | .word16 => UInt16
  | .word32 => UInt32
  | .word64 => UInt64
  | .integer => Int64
  | .endpoint => Endpoint
  | .operator => Operator
  | .operators => OperatorSet
  | .text => String

def read? : (scalar : Scalar) → Word → Option scalar.Value
  | .word16, word => word16? word
  | .word32, word => word32? word
  | .word64, word => word64? word
  | .integer, word => int64? word
  | .endpoint, word => Endpoint.parse? word
  | .operator, word => Operator.parse? word
  | .operators, word => OperatorSet.parse? word
  | .text, word => some (String.ofList word)

def write : (scalar : Scalar) → scalar.Value → Word
  | .word16, value => ofWord16 value
  | .word32, value => ofWord32 value
  | .word64, value => ofWord64 value
  | .integer, value => ofInt64 value
  | .endpoint, value => value.text
  | .operator, value => [value.symbol]
  | .operators, value => value.text
  | .text, value => value.toList

end Scalar

/-! ## Readers -/

/-- Takes a value off the front of the words, or takes nothing. -/
abbrev Reader (α : Type) := List Word → Option (α × List Word)

namespace Reader

/-- Reads the next word; takes it only if it can be read. -/
def word {α : Type} (read? : Word → Option α) : Reader α
  | [] => none
  | next :: rest => (read? next).map fun value => (value, rest)

/-- Takes items until there is none. An item that takes no word ends the list as
well. -/
def many {α : Type} (item : Reader α) (words : List Word) : List α × List Word :=
  match item words with
  | some (value, rest) =>
      if rest.length < words.length then
        let (others, left) := many item rest
        (value :: others, left)
      else
        ([], words)
  | none => ([], words)
termination_by words.length

end Reader

/-! ## Fields -/

/-- A field is one value or a list of values, each of one word. -/
inductive Field where
  | one (scalar : Scalar)
  | many (scalar : Scalar)
deriving DecidableEq, Repr

namespace Field

abbrev Value : Field → Type
  | .one scalar => scalar.Value
  | .many scalar => List scalar.Value

/-- A value written as a field, with the blank that separates it from what is in
front. -/
def spaced (scalar : Scalar) (value : scalar.Value) : List Char :=
  ' ' :: scalar.write value

/-- The text of a field; an empty list has none. -/
def put : (field : Field) → field.Value → List Char
  | .one scalar, value => spaced scalar value
  | .many scalar, values => values.flatMap (spaced scalar)

def take? : (field : Field) → Reader field.Value
  | .one scalar => Reader.word scalar.read?
  | .many scalar => fun words => some (Reader.many (Reader.word scalar.read?) words)

end Field

end ArithmeticCloud.Wire
