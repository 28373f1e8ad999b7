import ArithmeticCloud.Text.Decimal
import ArithmeticCloud.Time.Duration

/-!
Contract: documents, as settings are given in them, and the reading of their
parts.

Owns:
- the tree of a document;
- the readers of numbers of a certain width, texts and lists;
- records, which are given by name or, in order, as a list. Entries with other
  names are ignored;
- choices among words.

Does not own: the text of a document, and which records there are.
-/

namespace ArithmeticCloud

open Text

inductive Document where
  | null
  | bool (value : Bool)
  | integer (value : Int)
  /-- A number with a fractional part, which may be zero. -/
  | decimal (value : Decimal)
  | text (value : String)
  | list (items : List Document)
  | record (entries : List (String × Document))
deriving Inhabited, Repr

namespace Document

/-! ## Scalars -/

def integer? : Document → Option Int
  | .integer value => some value
  | _ => none

def integerWithin? (least greatest : Int) : Document → Option Int
  | .integer value => if least ≤ value ∧ value ≤ greatest then some value else none
  | _ => none

def word16? (document : Document) : Option UInt16 :=
  (document.integerWithin? 0 (UInt16.size - 1)).map fun value => UInt16.ofNat value.toNat

def word32? (document : Document) : Option UInt32 :=
  (document.integerWithin? 0 (UInt32.size - 1)).map fun value => UInt32.ofNat value.toNat

def word64? (document : Document) : Option UInt64 :=
  (document.integerWithin? 0 (UInt64.size - 1)).map fun value => UInt64.ofNat value.toNat

def int64? (document : Document) : Option Int64 :=
  (document.integerWithin? Int64.minValue.toInt Int64.maxValue.toInt).map Int64.ofInt

def decimal? : Document → Option Decimal
  | .integer value => some (.ofInt value)
  | .decimal value => some value
  | _ => none

def text? : Document → Option String
  | .text value => some value
  | _ => none

def characters? (document : Document) : Option (List Char) := document.text?.map String.toList

/-- A natural number; a negative one counts as zero. -/
def natural? (document : Document) : Option Nat := document.integer?.map Int.toNat

def milliseconds? (document : Document) : Option Duration :=
  document.natural?.map .ofMilliseconds

def ofNat (value : Nat) : Document := .integer value

def ofCharacters (characters : List Char) : Document := .text (String.ofList characters)

def ofOption {α : Type} (form : α → Document) : Option α → Document
  | none => .null
  | some value => form value

def ofList {α : Type} (form : α → Document) (values : List α) : Document :=
  .list (values.map form)

/-! ## Lists and records -/

def list? {α : Type} (item? : Document → Option α) : Document → Option (List α)
  | .list items => items.mapM item?
  | _ => none

def items? : Document → Option (List Document)
  | .list items => some items
  | _ => none

/-- The entry of a record, unless it is missing or null. -/
def entry? (name : String) : Document → Option Document
  | .record entries =>
      match entries.lookup name with
      | some .null => none
      | found => found
  | _ => none

/-- Reads an entry that has to be there. -/
def get {α : Type} (document : Document) (name : String) (read? : Document → Option α) :
    Option α :=
  (document.entry? name).bind read?

/-- Reads an entry that may be missing or null. -/
def getOr {α : Type} (document : Document) (name : String) (read? : Document → Option α)
    (default : α) : Option α :=
  match document.entry? name with
  | none => some default
  | some entry => read? entry

def maybe {α : Type} (document : Document) (name : String) (read? : Document → Option α) :
    Option (Option α) :=
  document.getOr name (fun entry => (read? entry).map some) none

/-- A value or nothing, which is null or a missing entry. -/
def optional? {α : Type} (value? : Document → Option α) : Option Document → Option (Option α)
  | none | some .null => some none
  | some document => (value? document).map some

/-- A value that may be left out, but not null. -/
def orElse? {α : Type} (value? : Document → Option α) (default : α) :
    Option Document → Option α
  | none => some default
  | some document => value? document

/-- The entries of a record in the order of their names. A list has to reach
at least as far as the entries that have no default. -/
def fields? (names : List String) (withDefault : Nat) : Document → Option (List (Option Document))
  | .record entries => some (names.map fun name => entries.lookup name)
  | .list items =>
      if items.length ≤ names.length ∧ names.length ≤ items.length + withDefault then
        some (items.map some ++ List.replicate (names.length - items.length) none)
      else
        none
  | _ => none

/-! ## Choices -/

/-- A word, given as such or as the name of one entry that holds null. -/
def choice? {α : Type} (choices : List α) (title : α → String) : Document → Option α
  | .text word => choices.find? fun choice => title choice == word
  | .record [(word, .null)] => choices.find? fun choice => title choice == word
  | _ => none

end Document

end ArithmeticCloud
