import ArithmeticCloud.Text.Blank

/-!
Contract: decimal numerals of integers and of fixed-width words, and digits of
other bases.

Owns:
- writing: the digits of a natural number without leading zeros, a minus sign in
  front of a negative integer;
- reading: one optional sign, then at least one ASCII digit and nothing else.
  Leading zeros are accepted. An unsigned numeral accepts a plus sign only;
- the bounds of each fixed-width reader: a value out of range is refused;
- single digits in bases up to sixteen, which are written in lower case and read
  in either case.

Does not own: numerals inside network addresses, which have rules of their own.
-/

namespace ArithmeticCloud.Text

/-! ## Writing -/

def digit (value : Nat) : Char := Char.ofNat (48 + value)

def hexDigit (value : Nat) : Char := Char.ofNat (if value < 10 then 48 + value else 87 + value)

/-- The decimal digits, most significant first; zero is written `0`. -/
def digits (value : Nat) : Word :=
  if value < 10 then [digit value] else digits (value / 10) ++ [digit (value % 10)]

def numeral (value : Int) : Word :=
  if value < 0 then '-' :: digits value.natAbs else digits value.natAbs

/-- The digits of `value` in exactly `places` places, more significant digits
left out. -/
def paddedDigits (value : Nat) : Nat → Word
  | 0 => []
  | places + 1 => paddedDigits (value / 10) places ++ [digit (value % 10)]

/-- Drops the zeros at the end of a run of digits. -/
def dropTrailingZeros (digits : Word) : Word := (digits.reverse.dropWhile (· == '0')).reverse

/-! ## Reading -/

def digitValue? (c : Char) : Option Nat :=
  if '0' ≤ c ∧ c ≤ '9' then some (c.toNat - 48) else none

/-- The value of a digit in a base up to sixteen, in either case. -/
def digitValueIn? (base : Nat) (c : Char) : Option Nat :=
  let value? :=
    if '0' ≤ c ∧ c ≤ '9' then some (c.toNat - 48)
    else if 'a' ≤ c ∧ c ≤ 'f' then some (c.toNat - 87)
    else if 'A' ≤ c ∧ c ≤ 'F' then some (c.toNat - 55)
    else none
  value?.filter (· < base)

/-- Appends digits to a value read so far; fails at the first other character. -/
def appendDigits? : Nat → Word → Option Nat
  | value, [] => some value
  | value, c :: rest =>
      match digitValue? c with
      | some next => appendDigits? (10 * value + next) rest
      | none => none

def ofDigits? : Word → Option Nat
  | [] => none
  | c :: rest => appendDigits? 0 (c :: rest)

/-- A natural numeral, with an optional plus sign. -/
def natural? : Word → Option Nat
  | '+' :: rest => ofDigits? rest
  | text => ofDigits? text

/-- An integer numeral, with an optional sign. -/
def integer? : Word → Option Int
  | '+' :: rest => (ofDigits? rest).map Int.ofNat
  | '-' :: rest => (ofDigits? rest).map fun value => -Int.ofNat value
  | text => (ofDigits? text).map Int.ofNat

def naturalBelow? (bound : Nat) (text : Word) : Option Nat :=
  match natural? text with
  | some value => if value < bound then some value else none
  | none => none

def word16? (text : Word) : Option UInt16 :=
  (naturalBelow? UInt16.size text).map UInt16.ofNat

def word32? (text : Word) : Option UInt32 :=
  (naturalBelow? UInt32.size text).map UInt32.ofNat

def word64? (text : Word) : Option UInt64 :=
  (naturalBelow? UInt64.size text).map UInt64.ofNat

def int64? (text : Word) : Option Int64 :=
  match integer? text with
  | some value =>
      if Int64.minValue.toInt ≤ value ∧ value ≤ Int64.maxValue.toInt then
        some (Int64.ofInt value)
      else
        none
  | none => none

def ofWord16 (value : UInt16) : Word := digits value.toNat

def ofWord32 (value : UInt32) : Word := digits value.toNat

def ofWord64 (value : UInt64) : Word := digits value.toNat

def ofInt64 (value : Int64) : Word := numeral value.toInt

/-! ## Defining equations -/

theorem digits_of_lt {value : Nat} (small : value < 10) : digits value = [digit value] := by
  rw [digits, if_pos small]

theorem digits_of_le {value : Nat} (large : 10 ≤ value) :
    digits value = digits (value / 10) ++ [digit (value % 10)] := by
  rw [digits, if_neg (by omega)]

theorem digits_ne_nil (value : Nat) : digits value ≠ [] := by
  unfold digits
  split <;> simp

end ArithmeticCloud.Text
