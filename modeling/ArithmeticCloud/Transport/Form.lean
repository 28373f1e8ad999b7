import ArithmeticCloud.Document
import ArithmeticCloud.Transport.Line

/-!
Contract: bytes as documents.

Owns: the form, which is a text where the bytes are one and hexadecimal digits
otherwise, and its reading.

Does not own: framing.
-/

namespace ArithmeticCloud.Transport

open Text

def hexadecimal (bytes : Bytes) : List Char :=
  bytes.flatMap fun byte => [hexDigit (byte.toNat / 16), hexDigit (byte.toNat % 16)]

def ofHexadecimal? : List Char → Option Bytes
  | [] => some []
  | high :: low :: rest => do
      let value := 16 * (← digitValueIn? 16 high) + (← digitValueIn? 16 low)
      return UInt8.ofNat value :: (← ofHexadecimal? rest)
  | [_] => none

def ofBytes (bytes : Bytes) : Document :=
  match text? bytes with
  | some text => .text text
  | none => .record [("hex", .ofCharacters (hexadecimal bytes))]

def bytesOf? (document : Document) : Option Bytes :=
  match document.entry? "hex" with
  | some digits => digits.characters?.bind ofHexadecimal?
  | none => document.text?.map bytesOf

end ArithmeticCloud.Transport
