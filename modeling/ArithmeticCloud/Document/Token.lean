import ArithmeticCloud.Document
import ArithmeticCloud.Text.Quoted

/-!
Contract: the tokens of a JSON text, which are marks and scalars with blanks in
between.

Owns:
- numbers: one without fraction and exponent is an integer, only a zero with a
  minus sign is a fraction. No zero may lead. An exponent is below a thousand;
- the words and the quoted texts among the scalars.

Does not own: how tokens nest.
-/

namespace ArithmeticCloud.Document

open Text

/-! ## Numbers -/

/-- Reads the places after a point, if there is one. -/
def places? : Word → Option (Word × Word)
  | '.' :: rest =>
      let (places, rest) := rest.span Char.isDigit
      if places.isEmpty then none else some (places, rest)
  | rest => some ([], rest)

/-- Reads a power of ten, if there is one. -/
def exponent? : Word → Option Int
  | [] => some 0
  | mark :: digits =>
      if mark == 'e' || mark == 'E' then
        (Text.integer? digits).filter fun exponent => exponent.natAbs < 1000
      else
        none

def number? (word : Word) : Option Document := do
  let negative := word.head? == some '-'
  let (whole, rest) := (if negative then word.drop 1 else word).span Char.isDigit
  let size ← ofDigits? whole
  if 1 < whole.length ∧ whole.head? = some '0' then
    none
  else if rest.isEmpty && !(negative && size == 0) then
    return .integer (if negative then -size else size)
  else
    let (places, rest) ← places? rest
    let value : Decimal := ⟨negative, ← appendDigits? size places, places.length⟩
    return .decimal (value.scaled (← exponent? rest))

def bare? (word : Word) : Option Document :=
  match String.ofList word with
  | "null" => some .null
  | "true" => some (.bool true)
  | "false" => some (.bool false)
  | _ => number? word

/-! ## Tokens -/

inductive Mark where
  | listStart
  | listEnd
  | recordStart
  | recordEnd
  | colon
  | comma
deriving DecidableEq, Repr

def Mark.ofChar? : Char → Option Mark
  | '[' => some .listStart
  | ']' => some .listEnd
  | '\x7b' => some .recordStart
  | '\x7d' => some .recordEnd
  | ':' => some .colon
  | ',' => some .comma
  | _ => none

inductive Token where
  | mark (mark : Mark)
  | scalar (value : Document)
deriving Repr

/-- What a reader of characters is inside of, with the characters read of it, the
latest one first. -/
inductive Inside where
  | blanks
  | word (read : Word)
  | quotes (read : Word)
  /-- A backslash inside quotation marks was the latest character. -/
  | escape (read : Word)
deriving Repr

/-- The tokens read so far, the latest one first. -/
structure Scan where
  found : List Token
  inside : Inside
deriving Repr

/-- Reads a character with which something new begins. -/
def Scan.start (found : List Token) (c : Char) : Scan :=
  if c == ' ' || c == '\t' || c == '\n' || c == '\r' then
    ⟨found, .blanks⟩
  else if c == quotationMark then
    ⟨found, .quotes []⟩
  else
    match Mark.ofChar? c with
    | some mark => ⟨.mark mark :: found, .blanks⟩
    | none => ⟨found, .word [c]⟩

def Scan.step? (scan : Scan) (c : Char) : Option Scan :=
  match scan.inside with
  | .blanks => some (.start scan.found c)
  | .word read =>
      match Scan.start scan.found c with
      | ⟨_, .word _⟩ => some { scan with inside := .word (c :: read) }
      | _ => (bare? read.reverse).map fun value => .start (.scalar value :: scan.found) c
  | .quotes read =>
      if c == quotationMark then
        (unescape? read.reverse).map fun text =>
          ⟨.scalar (.ofCharacters text) :: scan.found, .blanks⟩
      else if c == backslash then
        some { scan with inside := .escape (c :: read) }
      else
        some { scan with inside := .quotes (c :: read) }
  | .escape read => some { scan with inside := .quotes (c :: read) }

/-- The tokens of a text. A blank at its end closes the last word. -/
def tokens? (text : Word) : Option (List Token) := do
  let scan ← (text ++ [' ']).foldlM Scan.step? ⟨[], .blanks⟩
  match scan.inside with
  | .blanks => some scan.found.reverse
  | _ => none

end ArithmeticCloud.Document
