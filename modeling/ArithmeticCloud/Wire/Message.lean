import ArithmeticCloud.Wire.Field

/-!
Contract: one-line protocol messages.

Owns:
- a message, which is a variant with a value for each of its fields;
- encoding: the keyword, then the fields in order;
- decoding against a list of variants: one leading `!` of the first word is
  ignored, the first variant with that keyword decides the fields, and no word
  may be left over.

Does not own: which variants a protocol has.
-/

namespace ArithmeticCloud.Wire

open Text

/-- One kind of message. -/
structure Variant where
  keyword : String
  fields : List Field
deriving DecidableEq, Repr

/-- A value for each field. -/
abbrev Values : List Field → Type
  | [] => Unit
  | field :: others => field.Value × Values others

structure Message where
  variant : Variant
  values : Values variant.fields

/-- The kinds of message of one protocol, in order of declaration. -/
abbrev Schema := List Variant

def Schema.keywords (schema : Schema) : List String := schema.map Variant.keyword

/-- Drops one leading exclamation mark. -/
def dropMark : Word → Word
  | '!' :: rest => rest
  | word => word

/-- Takes the first word as a keyword. -/
def takeKeyword? : Reader String := Reader.word fun word => some (String.ofList (dropMark word))

def putValues : (fields : List Field) → Values fields → List Char
  | [], _ => []
  | field :: others, (value, rest) => field.put value ++ putValues others rest

def takeValues? : (fields : List Field) → Reader (Values fields)
  | [], words => some ((), words)
  | field :: others, words => do
      let (value, words) ← field.take? words
      let (rest, words) ← takeValues? others words
      return ((value, rest), words)

namespace Message

def encode (message : Message) : String :=
  String.ofList (message.variant.keyword.toList ++ putValues message.variant.fields message.values)

/-- Reads a message of a variant from the words after its keyword. -/
def ofWords? (variant : Variant) (words : List Word) : Option Message :=
  match takeValues? variant.fields words with
  | some (values, []) => some ⟨variant, values⟩
  | _ => none

def decode? (schema : Schema) (line : String) : Option Message := do
  let (keyword, rest) ← takeKeyword? (words line.toList)
  let variant ← schema.find? fun variant => variant.keyword == keyword
  ofWords? variant rest

end Message

end ArithmeticCloud.Wire
