import ArithmeticCloud.Wire.Message

/-!
Contract: cursors over the words of a line.

Owns:
- `Cursor`, which may have looked at the next word already, and the steps that it takes;
- `Attempt`, which gives a value or not, and in both cases leaves a cursor behind,
  wherever it has got to;
- lists, whose items are attempted on a copy of the cursor. The copy is kept if the item
  is there and thrown away if it is not.

Does not own: which fields a message has.

Nothing but its items bounds a list: it goes on for as long as they are found, and items that
take no word are found for ever.
-/

namespace ArithmeticCloud.Wire

open Text

/-! ## Cursors -/

inductive Cursor where
  /-- Nothing of the text was looked at. -/
  | unseen (text : List Char)
  /-- The next word was looked at, and nothing of the text behind it. -/
  | seen (word : Word) (text : List Char)
  /-- A next word was looked for, and there was none. -/
  | ended
deriving DecidableEq, Repr

namespace Cursor

def ofLine (line : List Char) : Cursor := .unseen line

/-- The words that are not taken yet. -/
def words : Cursor → List Word
  | .unseen text => Text.words text
  | .seen word text => word :: Text.words text
  | .ended => []

def remaining (cursor : Cursor) : Nat := cursor.words.length

/-- The next word, and the text behind it. -/
def front? : Cursor → Option (Word × List Char)
  | .unseen text => firstWord? text
  | .seen word text => some (word, text)
  | .ended => none

/-- Looks at the next word. -/
def peek (cursor : Cursor) : Option Word × Cursor :=
  match cursor.front? with
  | some (word, behind) => (some word, .seen word behind)
  | none => (none, .ended)

/-- Takes the next word. -/
def next (cursor : Cursor) : Option Word × Cursor :=
  match cursor.front? with
  | some (word, behind) => (some word, .unseen behind)
  | none => (none, .unseen [])

end Cursor

/-! ## Attempts -/

/-- Looks for a value at a cursor. The cursor that is left may be anywhere if there is none. -/
abbrev Attempt (α : Type) := Cursor → Option α × Cursor

namespace Attempt

/-- Looks at the next word; takes it only if it can be read. -/
def word {α : Type} (read? : Word → Option α) : Attempt α := fun cursor =>
  match cursor.peek with
  | (none, looked) => (none, looked)
  | (some found, looked) =>
      match read? found with
      | some value => (some value, looked.next.2)
      | none => (none, looked)

def keyword : Attempt String := fun cursor =>
  let (first?, behind) := cursor.next
  (first?.map fun first => String.ofList (dropMark first), behind)

/-- The first rounds of taking a list. Each looks for one more item, at the cursor that the
round before has left. There is no result if the rounds are over before the list is. -/
def manyWithin {α : Type} (item : Attempt α) :
    (rounds : Nat) → List α → Cursor → Option (Option (List α) × Cursor)
  | 0, _, _ => none
  | rounds + 1, found, cursor =>
      match item cursor with
      | (some value, ahead) => manyWithin item rounds (found ++ [value]) ahead
      | (none, _) => some (some found, cursor)

/-- Takes items for as long as there is one. Where each takes a word, there are no more rounds
than words and one in which no item is found. -/
def many {α : Type} (item : Attempt α) (cursor : Cursor) : Option (Option (List α) × Cursor) :=
  manyWithin item (cursor.remaining + 1) [] cursor

end Attempt

/-- Looks for the value of a field. -/
def Field.attempt : (field : Field) → Cursor → Option (Option field.Value × Cursor)
  | .one scalar, cursor => some (Attempt.word scalar.read? cursor)
  | .many scalar, cursor => Attempt.many (Attempt.word scalar.read?) cursor

end ArithmeticCloud.Wire
