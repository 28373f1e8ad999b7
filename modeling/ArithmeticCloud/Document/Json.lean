import ArithmeticCloud.Document.Token

/-!
Contract: documents as JSON text.

Owns:
- the nesting of lists and records. Of two entries with one name the later one
  counts;
- the writing of a document on one line.

Does not own: tokens, and what a document means.
-/

namespace ArithmeticCloud.Document

open Text

/-! ## Nesting -/

/-- A list or a record that has not ended, with what was read of it, the latest
part first. -/
inductive Frame where
  | list (items : List Document)
  | record (entries : List (String × Document))
  /-- An entry whose value is awaited. -/
  | entry (name : String) (entries : List (String × Document))

/-- What the next token has to begin or end. -/
inductive Awaited where
  | value
  | name
  | colon
  /-- The end of what surrounds a document that has just been read, or a comma. -/
  | close (document : Document)

/-- The frames around the next token, the innermost one first. -/
structure Nesting where
  frames : List Frame
  awaited : Awaited

/-- A record of entries read, the latest one first. -/
def ofEntries (entries : List (String × Document)) : Document :=
  .record (entries.eraseDupsBy fun left right => left.1 == right.1).reverse

def Nesting.step? : Nesting → Token → Option Nesting
  | ⟨frames, .value⟩, .scalar value => some ⟨frames, .close value⟩
  | ⟨frames, .value⟩, .mark .listStart => some ⟨.list [] :: frames, .value⟩
  | ⟨.list [] :: frames, .value⟩, .mark .listEnd => some ⟨frames, .close (.list [])⟩
  | ⟨.list items :: frames, .close item⟩, .mark .comma =>
      some ⟨.list (item :: items) :: frames, .value⟩
  | ⟨.list items :: frames, .close item⟩, .mark .listEnd =>
      some ⟨frames, .close (.list (item :: items).reverse)⟩
  | ⟨frames, .value⟩, .mark .recordStart => some ⟨.record [] :: frames, .name⟩
  | ⟨.record [] :: frames, .name⟩, .mark .recordEnd => some ⟨frames, .close (.record [])⟩
  | ⟨.record entries :: frames, .name⟩, .scalar (.text name) =>
      some ⟨.entry name entries :: frames, .colon⟩
  | ⟨frames, .colon⟩, .mark .colon => some ⟨frames, .value⟩
  | ⟨.entry name entries :: frames, .close value⟩, .mark .comma =>
      some ⟨.record ((name, value) :: entries) :: frames, .name⟩
  | ⟨.entry name entries :: frames, .close value⟩, .mark .recordEnd =>
      some ⟨frames, .close (ofEntries ((name, value) :: entries))⟩
  | _, _ => none

def ofTokens? (tokens : List Token) : Option Document :=
  match tokens.foldlM Nesting.step? ⟨[], .value⟩ with
  | some ⟨[], .close document⟩ => some document
  | _ => none

def ofJson? (text : String) : Option Document := (tokens? text.toList).bind ofTokens?

/-! ## Writing -/

mutual

def json : Document → Word
  | .null => "null".toList
  | .bool value => (toString value).toList
  | .integer value => numeral value
  | .decimal value => value.text
  | .text value => quoted value.toList
  | .list items => '[' :: [','].intercalate (jsonItems items) ++ [']']
  | .record entries => '\x7b' :: [','].intercalate (jsonEntries entries) ++ ['\x7d']

def jsonItems : List Document → List Word
  | [] => []
  | item :: items => json item :: jsonItems items

def jsonEntries : List (String × Document) → List Word
  | [] => []
  | (name, value) :: entries => (quoted name.toList ++ ':' :: json value) :: jsonEntries entries

end

def toJson (document : Document) : String := String.ofList document.json

end ArithmeticCloud.Document
