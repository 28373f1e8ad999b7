import ArithmeticCloud.Transport.Exchange
import Mathlib.Data.List.TakeWhile

/-!
Contract: lines that are sent are received.

Owns: the bytes of a text, the texts that are lines, what is left of a text whose carriage
return is dropped, the message at the front of a stream, and the answer that the first line
of a stream is.

Does not own: streams that are cut off.
-/

namespace ArithmeticCloud.Transport

theorem text?_bytesOf (text : String) : text? (bytesOf text) = some text := by
  simp only [text?, bytesOf, String.fromUTF8?, Array.toArray_toList, String.toUTF8_eq_toByteArray]
  rw [dif_pos text.isValidUTF8]
  rfl

/-- A text that framing carries unchanged. -/
def IsLine (text : String) : Prop :=
  lineFeed ∉ bytesOf text ∧ dropReturn (bytesOf text) = bytesOf text

instance (text : String) : Decidable (IsLine text) := inferInstanceAs (Decidable (_ ∧ _))

/-! ## Bytes of characters -/

theorem bytesOf_eq_flatMap (text : String) :
    bytesOf text = text.toList.flatMap String.utf8EncodeChar := by
  unfold bytesOf
  rw [String.toUTF8_eq_toByteArray, ← String.utf8Encode_toList, List.utf8Encode,
    List.data_toByteArray]

/-- Characters below 128 are one byte each. -/
theorem bytesOf_ofList {letters : List Char} (ascii : ∀ c ∈ letters, c.toNat < 128) :
    bytesOf (String.ofList letters) = letters.map fun c => UInt8.ofNat c.toNat := by
  rw [bytesOf_eq_flatMap, String.toList_ofList]
  induction letters with
  | nil => rfl
  | cons c others inductionHypothesis =>
      rw [List.forall_mem_cons] at ascii
      have small : c.val.toNat ≤ 127 := Nat.le_of_lt_succ ascii.1
      have single : String.utf8EncodeChar c = [UInt8.ofNat c.toNat] := by
        unfold String.utf8EncodeChar
        rw [if_pos small]
        rfl
      rw [List.flatMap_cons, single, inductionHypothesis ascii.2]
      rfl

theorem length_bytesOf_ofList {letters : List Char} (ascii : ∀ c ∈ letters, c.toNat < 128) :
    (bytesOf (String.ofList letters)).length = letters.length := by
  rw [bytesOf_ofList ascii, List.length_map]

theorem take_bytesOf_ofList {letters : List Char} (ascii : ∀ c ∈ letters, c.toNat < 128)
    (cut : Nat) :
    (bytesOf (String.ofList letters)).take cut = bytesOf (String.ofList (letters.take cut)) := by
  rw [bytesOf_ofList ascii, bytesOf_ofList fun c member => ascii c (List.mem_of_mem_take member),
    List.map_take]

/-- A byte below 128 is the code of the character that it is among the bytes of. -/
theorem toNat_of_mem_utf8EncodeChar {c : Char} {byte : UInt8}
    (member : byte ∈ String.utf8EncodeChar c) (small : byte.toNat < 128) :
    c.toNat = byte.toNat := by
  show c.val.toNat = byte.toNat
  unfold String.utf8EncodeChar at member
  dsimp only at member
  -- Every byte of a longer encoding has its highest bit set.
  split at member
  · obtain rfl := List.mem_singleton.mp member
    rw [UInt8.toNat_ofNat']
    omega
  · exfalso
    split at member
    · simp only [List.mem_cons, List.not_mem_nil, or_false] at member
      rcases member with rfl | rfl
      all_goals
        rw [UInt8.toNat_ofNat'] at small
        omega
    · split at member
      · simp only [List.mem_cons, List.not_mem_nil, or_false] at member
        rcases member with rfl | rfl | rfl
        all_goals
          rw [UInt8.toNat_ofNat'] at small
          omega
      · simp only [List.mem_cons, List.not_mem_nil, or_false] at member
        rcases member with rfl | rfl | rfl | rfl
        all_goals
          rw [UInt8.toNat_ofNat'] at small
          omega

/-- Framing carries a text that has no character that ends a line. -/
theorem isLine_of_letters {text : String} (letters : ∀ c ∈ text.toList, c ≠ '\n' ∧ c ≠ '\r') :
    IsLine text := by
  have absent (ending : Char) (small : ending.toNat < 128)
      (letter : ∀ c ∈ text.toList, c ≠ ending) : UInt8.ofNat ending.toNat ∉ bytesOf text := by
    intro member
    rw [bytesOf_eq_flatMap] at member
    obtain ⟨c, inText, inCode⟩ := List.mem_flatMap.mp member
    have code : (UInt8.ofNat ending.toNat).toNat = ending.toNat := by
      rw [UInt8.toNat_ofNat']
      omega
    have same := toNat_of_mem_utf8EncodeChar inCode (by omega)
    rw [code] at same
    exact letter c inText (Char.toNat_inj.mp same)
  refine ⟨absent '\n' (by decide) fun c member => (letters c member).1, ?_⟩
  have noReturn := absent '\r' (by decide) fun c member => (letters c member).2
  unfold dropReturn
  rw [if_neg]
  intro last
  exact noReturn (List.mem_of_getLast? last)

/-! ## Texts that end in a carriage return -/

theorem bytesOf_of_text? {bytes : Bytes} {text : String} (valid : text? bytes = some text) :
    bytesOf text = bytes := by
  unfold text? String.fromUTF8? at valid
  split at valid
  · cases valid
    rfl
  · cases valid

theorem bytesOf_append (left right : String) :
    bytesOf (left ++ right) = bytesOf left ++ bytesOf right := by
  rw [bytesOf_eq_flatMap, bytesOf_eq_flatMap, bytesOf_eq_flatMap, String.toList_append,
    List.flatMap_append]

/-- A carriage return is a byte of its own. -/
theorem bytesOf_carriageReturn : bytesOf "\r" = [carriageReturn] := by decide +kernel

/-- Only a text that ends in a carriage return has it dropped. -/
theorem dropReturn_bytesOf (text : String) :
    dropReturn (bytesOf text) = bytesOf text ∨
      ∃ front, text = front ++ "\r" ∧ dropReturn (bytesOf text) = bytesOf front := by
  unfold dropReturn
  split
  · next last =>
      rcases List.eq_nil_or_concat text.toList with nothing | ⟨letters, c, whole⟩
      · rw [bytesOf_eq_flatMap, nothing] at last
        cases last
      · obtain ⟨before, same⟩ := List.getLast?_eq_some_iff.mp last
        rw [bytesOf_eq_flatMap, whole, List.concat_eq_append, List.flatMap_append,
          List.flatMap_singleton] at last
        have inCode : carriageReturn ∈ String.utf8EncodeChar c := by
          rw [List.getLast?_append, Option.or_eq_some_iff] at last
          rcases last with code | ⟨empty, -⟩
          · exact List.mem_of_getLast? code
          · exact absurd (List.getLast?_eq_none_iff.mp empty) (by simp)
        have isReturn : c = '\r' :=
          Char.toNat_inj.mp (toNat_of_mem_utf8EncodeChar inCode (by decide))
        have split : text = String.ofList letters ++ "\r" := by
          rw [← String.toList_inj, whole, isReturn]
          simp
        refine .inr ⟨String.ofList letters, split, ?_⟩
        rw [split, bytesOf_append, bytesOf_carriageReturn, List.dropLast_concat]
  · exact .inl rfl

/-- Bytes that are not a text are none without a carriage return at their end either. -/
theorem text?_dropReturn_eq_none {bytes : Bytes} (invalid : text? bytes = none) :
    text? (dropReturn bytes) = none := by
  unfold dropReturn
  split
  · next last =>
      obtain ⟨front, rfl⟩ := List.getLast?_eq_some_iff.mp last
      rw [List.dropLast_concat]
      cases valid : text? front with
      | none => rfl
      | some text =>
          rw [← bytesOf_of_text? valid, ← bytesOf_carriageReturn, ← bytesOf_append,
            text?_bytesOf] at invalid
          cases invalid
  · exact invalid

/-! ## Lines on a stream -/

theorem bne_lineFeed_of_mem {part : Bytes} (unbroken : lineFeed ∉ part) :
    ∀ byte ∈ part, (byte != lineFeed) = true := by
  intro byte member
  rw [bne_iff_ne]
  rintro rfl
  exact unbroken member

theorem takeWhile_append_lineFeed {message : Bytes} (unbroken : lineFeed ∉ message) (rest : Bytes) :
    (message ++ lineFeed :: rest).takeWhile (· != lineFeed) = message := by
  rw [List.takeWhile_append_of_pos (bne_lineFeed_of_mem unbroken),
    List.takeWhile_cons_of_neg (by simp), List.append_nil]

theorem receive_append {closed : Bool} {message : Bytes} (unbroken : lineFeed ∉ message)
    (rest : Bytes) :
    receive closed (message ++ lineFeed :: rest) = .message (dropReturn message) rest := by
  have inside := bne_lineFeed_of_mem unbroken
  have front := takeWhile_append_lineFeed unbroken rest
  have back : (message ++ lineFeed :: rest).dropWhile (· != lineFeed) = lineFeed :: rest := by
    rw [List.dropWhile_append_of_pos inside, List.dropWhile_cons_of_neg (by simp)]
  simp only [receive, front, back]

/-- Bytes without a terminator are a message at the end of a stream only. -/
theorem receive_of_unterminated {part : Bytes} (unbroken : lineFeed ∉ part) (closed : Bool) :
    receive closed part =
      if closed then if part.isEmpty then .ended else .message part [] else .waiting := by
  have inside := bne_lineFeed_of_mem unbroken
  have front : part.takeWhile (· != lineFeed) = part := List.takeWhile_eq_self_iff.mpr inside
  have back : part.dropWhile (· != lineFeed) = [] := List.dropWhile_eq_nil_iff.mpr inside
  simp only [receive, front, back]

theorem streamOf_cons (line : String) (others : List String) :
    streamOf (line :: others) = bytesOf line ++ lineFeed :: streamOf others := by
  simp [streamOf]

/-- The first line that comes back is the answer. -/
theorem readAnswer_streamOf {α : Type} {read? : String → Option α} {line : String} {answer : α}
    (kind sender : String) (isLine : IsLine line) (others : List String)
    (read : read? line = some answer) :
    readAnswer kind sender read? (streamOf (line :: others)) = .ok answer := by
  have received : ((Channel.ofStream (streamOf (line :: others))).receiveText).1 =
      .message line := by
    simp only [Channel.receiveText, Channel.receive, Channel.ofStream, streamOf_cons,
      receive_append isLine.1, isLine.2, text?_bytesOf]
  simp only [readAnswer, received, read]

end ArithmeticCloud.Transport
