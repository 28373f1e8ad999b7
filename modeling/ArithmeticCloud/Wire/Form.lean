import ArithmeticCloud.Document
import ArithmeticCloud.Wire.Message

/-!
Contract: protocol messages as documents.

Owns: for a value of each kind of field its form as a document and its reading
from one, and the same for whole messages, which are a keyword and a list of
fields.

Does not own: the encoded line. A document can hold messages that do not survive
encoding, such as an empty text.
-/

namespace ArithmeticCloud.Wire

open Network Text

/-! ## Words of messages -/

def addressOf? (document : Document) : Option Address := document.characters?.bind Address.parse?

def endpointOf? (document : Document) : Option Endpoint :=
  document.characters?.bind Endpoint.parse?

def operatorOf? (document : Document) : Option Operator :=
  document.characters?.bind Operator.parse?

/-- Operators inserted one by one, from a text or a list. -/
def operatorsOf? : Document → Option OperatorSet
  | .text symbols => (symbols.toList.mapM Operator.ofSymbol?).map .ofList
  | .list items => (items.mapM operatorOf?).map .ofList
  | _ => none

def ofEndpoint (endpoint : Endpoint) : Document := .ofCharacters endpoint.text

def ofOperator (operator : Operator) : Document := .ofCharacters [operator.symbol]

def ofOperators (set : OperatorSet) : Document := .ofCharacters set.text

def ofWord (value : UInt64) : Document := .ofNat value.toNat

def ofInteger (value : Int64) : Document := .integer value.toInt

/-! ## Fields and messages -/

namespace Scalar

def form : (scalar : Scalar) → scalar.Value → Document
  | .word16, value => .ofNat value.toNat
  | .word32, value => .ofNat value.toNat
  | .word64, value => ofWord value
  | .integer, value => ofInteger value
  | .text, value => .text value
  | .endpoint, value => ofEndpoint value
  | .operator, value => ofOperator value
  | .operators, value => ofOperators value

def ofForm? : (scalar : Scalar) → Document → Option scalar.Value
  | .word16, document => document.word16?
  | .word32, document => document.word32?
  | .word64, document => document.word64?
  | .integer, document => document.int64?
  | .endpoint, document => endpointOf? document
  | .operator, document => operatorOf? document
  | .operators, document => operatorsOf? document
  | .text, document => document.text?

end Scalar

namespace Field

def form : (field : Field) → field.Value → Document
  | .one scalar, value => scalar.form value
  | .many scalar, values => .ofList scalar.form values

def ofForm? : (field : Field) → Document → Option field.Value
  | .one scalar, document => scalar.ofForm? document
  | .many scalar, document => document.list? scalar.ofForm?

end Field

def valueForms : (fields : List Field) → Values fields → List Document
  | [], _ => []
  | field :: others, (value, rest) => field.form value :: valueForms others rest

def ofValueForms? : (fields : List Field) → List Document → Option (Values fields)
  | [], [] => some ()
  | field :: others, document :: documents => do
      return (← field.ofForm? document, ← ofValueForms? others documents)
  | _, _ => none

namespace Message

def form (message : Message) : Document :=
  .record [("kind", .text message.variant.keyword),
    ("fields", .list (valueForms message.variant.fields message.values))]

def ofForm? (schema : Schema) (document : Document) : Option Message := do
  let keyword ← (← document.entry? "kind").text?
  let variant ← schema.find? fun variant => variant.keyword == keyword
  return ⟨variant, ← ofValueForms? variant.fields (← (← document.entry? "fields").items?)⟩

end Message

end ArithmeticCloud.Wire
