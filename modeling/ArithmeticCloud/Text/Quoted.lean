import ArithmeticCloud.Text.Numeral

/-!
Contract: texts between quotation marks.

Owns: the escapes, each of which begins with a backslash. A letter stands for a
certain character, and `u` with four hexadecimal digits for a code unit of
sixteen bits; two such units that form a surrogate pair are one character.
Control characters have to be escaped.

Does not own: where quoted texts occur.
-/

namespace ArithmeticCloud.Text

def quotationMark : Char := Char.ofNat 0x22

def backslash : Char := Char.ofNat 0x5C

/-- Whether a character cannot stand for itself. -/
def isControl (c : Char) : Bool := c.toNat < 0x20

/-! ## Writing -/

def escaped (c : Char) : Word :=
  if c == quotationMark || c == backslash then
    [backslash, c]
  else if isControl c then
    [backslash, 'u', '0', '0', hexDigit (c.toNat / 16), hexDigit (c.toNat % 16)]
  else
    [c]

def quoted (text : Word) : Word := quotationMark :: text.flatMap escaped ++ [quotationMark]

/-! ## Reading -/

/-- The characters that letters stand for after a backslash. -/
def escapeLetters : List (Char × Char) :=
  [(quotationMark, quotationMark), (backslash, backslash), ('/', '/'), ('b', Char.ofNat 0x08),
    ('f', Char.ofNat 0x0C), ('n', Char.ofNat 0x0A), ('r', Char.ofNat 0x0D), ('t', Char.ofNat 0x09)]

/-- The value of hexadecimal digits, appended to a value read so far. -/
def appendHexDigits? (value : Nat) (digits : Word) : Option Nat :=
  digits.foldlM (fun total c => (digitValueIn? 16 c).map fun next => 16 * total + next) value

/-- The code points of a text with escapes, half a surrogate pair being one too. -/
def codePoints? : Word → Option (List Nat)
  | [] => some []
  | c :: rest =>
      if c != backslash then
        if isControl c then none else (codePoints? rest).map (c.toNat :: ·)
      else
        match rest with
        | 'u' :: first :: second :: third :: fourth :: rest => do
            let unit ← appendHexDigits? 0 [first, second, third, fourth]
            return unit :: (← codePoints? rest)
        | letter :: rest => do
            let c ← escapeLetters.lookup letter
            return c.toNat :: (← codePoints? rest)
        | [] => none

def isHighSurrogate (codePoint : Nat) : Bool := 0xD800 ≤ codePoint && codePoint < 0xDC00

def isLowSurrogate (codePoint : Nat) : Bool := 0xDC00 ≤ codePoint && codePoint < 0xE000

/-- Joins surrogate pairs. Half a pair alone is refused. -/
def joined? : List Nat → Option Word
  | [] => some []
  | high :: rest =>
      if isLowSurrogate high then
        none
      else if isHighSurrogate high then
        match rest with
        | low :: rest =>
            if isLowSurrogate low then
              (joined? rest).map
                (Char.ofNat (0x10000 + 0x400 * (high - 0xD800) + (low - 0xDC00)) :: ·)
            else
              none
        | [] => none
      else
        (joined? rest).map (Char.ofNat high :: ·)

def unescape? (inner : Word) : Option Word := (codePoints? inner).bind joined?

/-! ## What was written is read back -/

/-- A control character is read back from its digits. -/
theorem appendHexDigits?_hexDigit : ∀ value < 0x20,
    appendHexDigits? 0 ['0', '0', hexDigit (value / 16), hexDigit (value % 16)] = some value := by
  decide

theorem codePoints?_escaped (c : Char) (rest : Word) :
    codePoints? (escaped c ++ rest) = (codePoints? rest).map (c.toNat :: ·) := by
  unfold escaped
  split
  · rename_i special
    simp only [Bool.or_eq_true, beq_iff_eq] at special
    rcases special with rfl | rfl
    · change (codePoints? rest).bind _ = _
      cases codePoints? rest <;> rfl
    · change (codePoints? rest).bind _ = _
      cases codePoints? rest <;> rfl
  · rename_i ordinary
    simp only [Bool.or_eq_true, beq_iff_eq, not_or] at ordinary
    split
    · rename_i control
      simp only [isControl, decide_eq_true_eq] at control
      change (appendHexDigits? 0 ['0', '0', hexDigit (c.toNat / 16), hexDigit (c.toNat % 16)]).bind
        _ = _
      rw [appendHexDigits?_hexDigit _ control]
      change (codePoints? rest).bind _ = _
      cases codePoints? rest <;> rfl
    · rename_i printable
      change codePoints? (c :: rest) = _
      rw [codePoints?.eq_def]
      simp [ordinary.2, printable]

theorem codePoints?_flatMap_escaped (text : Word) :
    codePoints? (text.flatMap escaped) = some (text.map Char.toNat) := by
  induction text with
  | nil => rfl
  | cons c rest inductionHypothesis =>
      rw [List.flatMap_cons, codePoints?_escaped, inductionHypothesis]
      rfl

theorem joined?_map_toNat (text : Word) : joined? (text.map Char.toNat) = some text := by
  induction text with
  | nil => rfl
  | cons c rest inductionHypothesis =>
      have valid := c.valid
      simp only [UInt32.isValidChar, Nat.isValidChar, UInt32.toNat] at valid
      have notHigh : isHighSurrogate c.toNat = false := by
        simp only [isHighSurrogate, Char.toNat, UInt32.toNat, Bool.and_eq_false_iff,
          decide_eq_false_iff_not]
        omega
      have notLow : isLowSurrogate c.toNat = false := by
        simp only [isLowSurrogate, Char.toNat, UInt32.toNat, Bool.and_eq_false_iff,
          decide_eq_false_iff_not]
        omega
      rw [List.map_cons, joined?.eq_def]
      simp [notHigh, notLow, inductionHypothesis]

/-- What is written between quotation marks is read back. -/
theorem unescape?_flatMap_escaped (text : Word) :
    unescape? (text.flatMap escaped) = some text := by
  rw [unescape?, codePoints?_flatMap_escaped, Option.bind_some, joined?_map_toNat]

end ArithmeticCloud.Text
