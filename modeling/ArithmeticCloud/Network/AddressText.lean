import ArithmeticCloud.Network.Address
import ArithmeticCloud.Text.Numeral

/-!
Contract: the text forms of addresses and endpoints.

Owns:
- version 4: four decimal octets without leading zeros;
- version 6: groups of at most four hexadecimal digits, one `::` for a run of
  zero groups, an embedded version 4 address as the last two groups;
- endpoints: `address:port`, with brackets and an optional `%zone` in version 6;
- the written form, in which the first longest run of two or more zero groups is
  compressed and a mapped version 4 address keeps its dots.

Does not own: host names.

Every reader takes as much as its form allows and returns what is left. A text
is accepted by the functions that end in `?` without a rest when nothing is left.
-/

namespace ArithmeticCloud.Network

open Text

/-! ## Numbers inside addresses -/

structure NumberForm where
  base : Nat
  /-- The most digits that a number may have, if that is limited. -/
  width : Option Nat
  /-- Whether a number of two or more digits may start with a zero. -/
  leadingZero : Bool
  /-- The first value that is too large. -/
  bound : Nat
deriving DecidableEq, Repr

def octetForm : NumberForm := ⟨10, some 3, false, 256⟩

def groupForm : NumberForm := ⟨16, some 4, true, 65536⟩

def portForm : NumberForm := ⟨10, none, true, 65536⟩

def zoneForm : NumberForm := ⟨10, none, true, 4294967296⟩

namespace NumberForm

def isDigit (form : NumberForm) (c : Char) : Bool := (digitValueIn? form.base c).isSome

def value (form : NumberForm) (run : List Char) : Nat :=
  run.foldl (fun total c => form.base * total + (digitValueIn? form.base c).getD 0) 0

def accepts (form : NumberForm) (run : List Char) : Bool :=
  !run.isEmpty &&
  (match form.width with
    | some width => run.length ≤ width
    | none => true) &&
  (form.leadingZero || run.length ≤ 1 || run.head? != some '0') &&
  form.value run < form.bound

/-- Reads the longest run of digits, which has to be a number of this form. -/
def read? (form : NumberForm) (text : List Char) : Option (Nat × List Char) :=
  let run := text.takeWhile form.isDigit
  if form.accepts run then some (form.value run, text.dropWhile form.isDigit) else none

end NumberForm

def expect? (expected : Char) : List Char → Option (List Char)
  | [] => none
  | c :: rest => if c = expected then some rest else none

/-! ## Version 4 -/

def readIPv4? (text : List Char) : Option (IPv4 × List Char) := do
  let (first, text) ← octetForm.read? text
  let text ← expect? '.' text
  let (second, text) ← octetForm.read? text
  let text ← expect? '.' text
  let (third, text) ← octetForm.read? text
  let text ← expect? '.' text
  let (fourth, text) ← octetForm.read? text
  return (⟨.ofNat first, .ofNat second, .ofNat third, .ofNat fourth⟩, text)

namespace IPv4

/-- The address as two groups of a version 6 address. -/
def groups (address : IPv4) : List UInt16 :=
  [.ofNat (256 * address.first.toNat + address.second.toNat),
    .ofNat (256 * address.third.toNat + address.fourth.toNat)]

def text (address : IPv4) : Word :=
  digits address.first.toNat ++ '.' :: digits address.second.toNat ++
    '.' :: digits address.third.toNat ++ '.' :: digits address.fourth.toNat

end IPv4

/-! ## Version 6 -/

/-- The groups at the front of a text, and whether they end in an embedded
version 4 address. -/
structure GroupRun where
  groups : List UInt16
  embedded : Bool
  rest : List Char

/-- Reads at most `slots` groups. Every group but the first of the run follows a
colon. An embedded address takes two slots and ends the run. -/
def readGroups : Nat → Bool → List Char → GroupRun
  | 0, _, text => ⟨[], false, text⟩
  | slots + 1, isFirst, text =>
      let start? := if isFirst then some text else expect? ':' text
      let embedded? := if 1 ≤ slots then start?.bind readIPv4? else none
      match embedded? with
      | some (address, rest) => ⟨address.groups, true, rest⟩
      | none =>
          match start?.bind groupForm.read? with
          | some (group, rest) =>
              let others := readGroups slots false rest
              { others with groups := .ofNat group :: others.groups }
          | none => ⟨[], false, text⟩

def ipv6OfGroups? (groups : List UInt16) : Option IPv6 :=
  if size_eq : groups.length = 8 then some ⟨groups, size_eq⟩ else none

/-- Either eight groups, or fewer with one `::` among them that stands for at
least one zero group. No embedded address may come before the `::`. -/
def readIPv6? (text : List Char) : Option (IPv6 × List Char) :=
  let head := readGroups 8 true text
  if head.groups.length = 8 then
    (ipv6OfGroups? head.groups).map fun address => (address, head.rest)
  else if head.embedded then
    none
  else do
    let text ← expect? ':' head.rest
    let text ← expect? ':' text
    let tail := readGroups (7 - head.groups.length) true text
    let zeros := List.replicate (8 - head.groups.length - tail.groups.length) 0
    let address ← ipv6OfGroups? (head.groups ++ zeros ++ tail.groups)
    return (address, tail.rest)

structure ZeroRun where
  start : Nat
  size : Nat
deriving DecidableEq, Repr

/-- The first longest run of zero groups. `current` is the run that ends just
before `position`. -/
def longestZeroRun (position : Nat) (current longest : ZeroRun) : List UInt16 → ZeroRun
  | [] => longest
  | group :: rest =>
      if group = 0 then
        let grown : ZeroRun :=
          if current.size = 0 then ⟨position, 1⟩ else ⟨current.start, current.size + 1⟩
        longestZeroRun (position + 1) grown (if grown.size > longest.size then grown else longest)
          rest
      else
        longestZeroRun (position + 1) ⟨0, 0⟩ longest rest

/-- A group in lower-case hexadecimal without leading zeros. -/
def groupText (group : UInt16) : Word :=
  let value := group.toNat
  if value < 0x10 then
    [hexDigit value]
  else if value < 0x100 then
    [hexDigit (value / 0x10), hexDigit (value % 0x10)]
  else if value < 0x1000 then
    [hexDigit (value / 0x100), hexDigit (value / 0x10 % 0x10), hexDigit (value % 0x10)]
  else
    [hexDigit (value / 0x1000), hexDigit (value / 0x100 % 0x10), hexDigit (value / 0x10 % 0x10),
      hexDigit (value % 0x10)]

def groupsText (groups : List UInt16) : Word :=
  [':'].intercalate (groups.map groupText)

namespace IPv6

def mapped? (address : IPv6) : Option IPv4 :=
  match address.groups with
  | [0, 0, 0, 0, 0, 0xffff, high, low] =>
      some ⟨(high >>> 8).toUInt8, high.toUInt8, (low >>> 8).toUInt8, low.toUInt8⟩
  | _ => none

def text (address : IPv6) : Word :=
  match address.mapped? with
  | some inner => "::ffff:".toList ++ inner.text
  | none =>
      let zeros := longestZeroRun 0 ⟨0, 0⟩ ⟨0, 0⟩ address.groups
      if zeros.size > 1 then
        groupsText (address.groups.take zeros.start) ++ "::".toList ++
          groupsText (address.groups.drop (zeros.start + zeros.size))
      else
        groupsText address.groups

end IPv6

/-! ## Addresses and endpoints -/

def complete? {α : Type} : Option (α × List Char) → Option α
  | some (value, []) => some value
  | _ => none

namespace Address

def parse? (text : Word) : Option Address :=
  complete? <|
    match readIPv4? text with
    | some (address, rest) => some (.v4 address, rest)
    | none => (readIPv6? text).map fun (address, rest) => (.v6 address, rest)

def text : Address → Word
  | .v4 address => address.text
  | .v6 address => address.text

end Address

def readPort? (text : List Char) : Option (UInt16 × List Char) := do
  let text ← expect? ':' text
  let (port, rest) ← portForm.read? text
  return (.ofNat port, rest)

/-- A zone is optional; without one, or with one that is not a number, nothing is
taken and the zone is `0`. -/
def readZone (text : List Char) : UInt32 × List Char :=
  match (expect? '%' text).bind zoneForm.read? with
  | some (zone, rest) => (.ofNat zone, rest)
  | none => (0, text)

def readEndpointV4? (text : List Char) : Option (Endpoint × List Char) := do
  let (address, text) ← readIPv4? text
  let (port, text) ← readPort? text
  return (.v4 address port, text)

def readEndpointV6? (text : List Char) : Option (Endpoint × List Char) := do
  let text ← expect? '[' text
  let (address, text) ← readIPv6? text
  let (zone, text) := readZone text
  let text ← expect? ']' text
  let (port, text) ← readPort? text
  return (.v6 address port zone, text)

namespace Endpoint

def parse? (text : Word) : Option Endpoint :=
  complete? <|
    match readEndpointV4? text with
    | some result => some result
    | none => readEndpointV6? text

def text : Endpoint → Word
  | .v4 address port => address.text ++ ':' :: ofWord16 port
  | .v6 address port zone =>
      '[' :: address.text ++ (if zone = 0 then [] else '%' :: ofWord32 zone) ++
        ']' :: ':' :: ofWord16 port

end Endpoint

end ArithmeticCloud.Network
