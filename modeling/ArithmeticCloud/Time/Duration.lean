import ArithmeticCloud.Text.Numeral

/-!
Contract: spans of time.

Owns: durations in nanoseconds, their parts, and their text in the largest of
the units s, ms, µs and ns that gives at least one whole unit, with as many
decimals as are needed.

Does not own: clocks and timers.
-/

namespace ArithmeticCloud

open Text

structure Duration where
  nanoseconds : Nat
deriving DecidableEq, Repr

namespace Duration

def nanosecondsPerSecond : Nat := 1000000000

def zero : Duration := ⟨0⟩

def ofMilliseconds (count : Nat) : Duration := ⟨count * 1000000⟩

def ofSeconds (count : Nat) : Duration := ⟨count * nanosecondsPerSecond⟩

/-- Nanoseconds beyond a second carry into the seconds. -/
def ofParts (seconds nanoseconds : Nat) : Duration :=
  ⟨seconds * nanosecondsPerSecond + nanoseconds⟩

def seconds (duration : Duration) : Nat := duration.nanoseconds / nanosecondsPerSecond

/-- Nanoseconds beyond the whole seconds. -/
def fraction (duration : Duration) : Nat := duration.nanoseconds % nanosecondsPerSecond

/-- Whole milliseconds. -/
def milliseconds (duration : Duration) : Nat := duration.nanoseconds / 1000000

/-- A count of units with its decimals, trailing zeros left out. -/
def withDecimals (nanoseconds unit places : Nat) : Word :=
  let decimals := dropTrailingZeros (paddedDigits (nanoseconds % unit) places)
  digits (nanoseconds / unit) ++ if decimals.isEmpty then [] else '.' :: decimals

def text (duration : Duration) : Word :=
  let count := duration.nanoseconds
  if nanosecondsPerSecond ≤ count then
    withDecimals count nanosecondsPerSecond 9 ++ ['s']
  else if 1000000 ≤ count then
    withDecimals count 1000000 6 ++ ['m', 's']
  else if 1000 ≤ count then
    withDecimals count 1000 3 ++ ['µ', 's']
  else
    digits count ++ ['n', 's']

end Duration

end ArithmeticCloud
