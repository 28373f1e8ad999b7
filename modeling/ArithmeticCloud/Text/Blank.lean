/-!
Contract: blank characters, trimming, and the words of a text.

Owns:
- the set of blank characters, which is the Unicode property White_Space;
- `trim`, which drops the blanks at both ends;
- `words`, the maximal runs of characters that are not blank, and `firstWord?`, the first
  of them.

Does not own: what a word means to a message or a command.
-/

namespace ArithmeticCloud.Text

/-- A word is a text seen as its characters. -/
abbrev Word := List Char

/-- Code points outside the two contiguous ranges of blanks. -/
def scatteredBlanks : List Nat :=
  [0x20, 0x85, 0xA0, 0x1680, 0x2028, 0x2029, 0x202F, 0x205F, 0x3000]

/-- The characters with the Unicode property White_Space. -/
def isBlank (c : Char) : Bool :=
  (0x09 ≤ c.toNat && c.toNat ≤ 0x0D) ||
  (0x2000 ≤ c.toNat && c.toNat ≤ 0x200A) ||
  scatteredBlanks.contains c.toNat

/-- Drops the blanks at both ends. -/
def trim (text : List Char) : List Char :=
  ((text.dropWhile isBlank).reverse.dropWhile isBlank).reverse

/-- The maximal runs of characters that are not blank, in order. -/
def words : List Char → List Word
  | [] => []
  | c :: rest =>
      if isBlank c then
        words rest
      else
        match rest, words rest with
        | next :: _, word :: others =>
            if isBlank next then [c] :: word :: others else (c :: word) :: others
        | _, others => [c] :: others

/-- The first word, and the text behind it. -/
def firstWord? (text : List Char) : Option (Word × List Char) :=
  match text.dropWhile isBlank with
  | [] => none
  | letters => some (letters.takeWhile (!isBlank ·), letters.dropWhile (!isBlank ·))

@[simp] theorem words_nil : words [] = [] := rfl

theorem words_cons_blank {c : Char} (rest : List Char) (blank : isBlank c = true) :
    words (c :: rest) = words rest := by
  simp [words, blank]

end ArithmeticCloud.Text
