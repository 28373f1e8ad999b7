import ArithmeticCloud.Proofs.Arithmetic.OperatorSets
import ArithmeticCloud.Proofs.Network.Endpoints
import ArithmeticCloud.Proofs.Text.Numerals
import ArithmeticCloud.Wire.Protocol
import Mathlib.Data.List.Forall2

/-!
Contract: encoded messages are decoded to what they were.

Owns:
- `Scalar.Sound`, a value whose text is one word that reads as the value, and the
  values for which that is so, which are all that are read;
- `ReadsValues`, what words are read as, field by field, and that greedy lists take
  exactly that if they end where the next field starts;
- the words of an encoded message, and the lines that are decoded against a schema;
- the messages of the three protocols as instances.

Does not own: what the words of a protocol look like.
-/

namespace ArithmeticCloud.Wire

open Text Network

/-! ## Values and their words -/

/-- The text of the value is one word, and reads as the value. -/
structure Scalar.Sound (scalar : Scalar) (value : scalar.Value) : Prop where
  unbroken : Unbroken (scalar.write value)
  reads : scalar.read? (scalar.write value) = some value

theorem Scalar.sound_word16 (value : UInt16) : Scalar.word16.Sound value :=
  ⟨unbroken_digits value.toNat, word16?_ofWord16 value⟩

theorem Scalar.sound_word32 (value : UInt32) : Scalar.word32.Sound value :=
  ⟨unbroken_digits value.toNat, word32?_ofWord32 value⟩

theorem Scalar.sound_word64 (value : UInt64) : Scalar.word64.Sound value :=
  ⟨unbroken_digits value.toNat, word64?_ofWord64 value⟩

theorem Scalar.sound_integer (value : Int64) : Scalar.integer.Sound value :=
  ⟨unbroken_numeral value.toInt, int64?_ofInt64 value⟩

theorem Scalar.sound_endpoint (value : Endpoint) : Scalar.endpoint.Sound value :=
  ⟨value.unbroken_text, value.parse?_text⟩

theorem Scalar.sound_operator (value : Operator) : Scalar.operator.Sound value := by
  refine ⟨?_, Operator.ofSymbol?_symbol value⟩
  cases value <;> decide

theorem Scalar.sound_operators {value : OperatorSet} (written : value.Written) :
    Scalar.operators.Sound value :=
  ⟨OperatorSet.unbroken_text written.1, OperatorSet.parse?_text written⟩

theorem Scalar.sound_text {value : String} (unbroken : Unbroken value.toList) :
    Scalar.text.Sound value :=
  ⟨unbroken, congrArg some String.ofList_toList⟩

/-- A value that was read from a word is sound, however the word spelled it. -/
theorem Scalar.sound_of_read? {scalar : Scalar} {word : Word} {value : scalar.Value}
    (unbroken : Unbroken word) (read : scalar.read? word = some value) : scalar.Sound value := by
  cases scalar with
  | word16 => exact sound_word16 value
  | word32 => exact sound_word32 value
  | word64 => exact sound_word64 value
  | integer => exact sound_integer value
  | endpoint => exact sound_endpoint value
  | operator => exact sound_operator value
  | operators => exact sound_operators (OperatorSet.written_of_parse? read)
  | text =>
      obtain rfl := Option.some.inj read
      apply sound_text
      rw [String.toList_ofList]
      exact unbroken

/-- The words that a field is written as. -/
def Field.words : (field : Field) → field.Value → List Word
  | .one scalar, value => [scalar.write value]
  | .many scalar, values => values.map scalar.write

def valueWords : (fields : List Field) → Values fields → List Word
  | [], _ => []
  | field :: others, (value, rest) => field.words value ++ valueWords others rest

theorem Field.put_eq (field : Field) (value : field.Value) :
    field.put value = (field.words value).flatMap (' ' :: ·) := by
  cases field with
  | one scalar => simp [put, words, spaced]
  | many scalar =>
      change List.flatMap (spaced scalar) value = _
      rw [words, List.flatMap_map]
      rfl

theorem putValues_eq (fields : List Field) (values : Values fields) :
    putValues fields values = (valueWords fields values).flatMap (' ' :: ·) := by
  induction fields with
  | nil => rfl
  | cons field others inductionHypothesis =>
      rcases values with ⟨value, rest⟩
      rw [putValues, valueWords, List.flatMap_append, field.put_eq, inductionHypothesis]

/-! ## Lists of values -/

/-- The words are read as the values, one word for each. -/
def ReadAs {α : Type} (read? : Word → Option α) : List Word → List α → Prop :=
  List.Forall₂ fun word value => read? word = some value

theorem Reader.many_word_cons {α : Type} {read? : Word → Option α} {next : Word} {value : α}
    (read : read? next = some value) (others : List Word) :
    many (word read?) (next :: others) =
      (value :: (many (word read?) others).1, (many (word read?) others).2) := by
  rw [many]
  simp [word, read]

theorem Reader.many_word_of_ends {α : Type} {read? : Word → Option α} {rest : List Word}
    (ends : ∀ next ∈ rest.head?, read? next = none) : many (word read?) rest = ([], rest) := by
  rw [many]
  cases rest with
  | nil => rfl
  | cons next others =>
      have unread : read? next = none := ends next rfl
      simp [word, unread]

/-- A list takes the longest run of words that can be read. -/
theorem Reader.many_word_eq_iff {α : Type} {read? : Word → Option α} {words rest : List Word}
    {values : List α} :
    many (word read?) words = (values, rest) ↔
      ∃ front, words = front ++ rest ∧ ReadAs read? front values ∧
        ∀ next ∈ rest.head?, read? next = none := by
  constructor
  · intro taken
    induction words generalizing values with
    | nil =>
        rw [many_word_of_ends (by simp)] at taken
        obtain ⟨rfl, rfl⟩ := Prod.mk.inj taken
        exact ⟨[], rfl, .nil, by simp⟩
    | cons next others inductionHypothesis =>
        cases read : read? next with
        | none =>
            have ends : ∀ word ∈ (next :: others).head?, read? word = none := by simpa using read
            rw [many_word_of_ends ends] at taken
            obtain ⟨rfl, rfl⟩ := Prod.mk.inj taken
            exact ⟨[], rfl, .nil, ends⟩
        | some value =>
            rw [many_word_cons read] at taken
            obtain ⟨rfl, left⟩ := Prod.mk.inj taken
            obtain ⟨front, whole, reads, ends⟩ := inductionHypothesis (Prod.ext rfl left)
            exact ⟨next :: front, congrArg (next :: ·) whole, .cons read reads, ends⟩
  · rintro ⟨front, rfl, reads, ends⟩
    induction reads with
    | nil => exact many_word_of_ends ends
    | cons read _ inductionHypothesis =>
        rw [List.cons_append, many_word_cons read, inductionHypothesis]

/-- The fields do not start with a word that can be read as an item. -/
def EndsList (scalar : Scalar) : List Field → Prop
  | [] => True
  | .one next :: _ =>
      ∀ (word : Word) (value : next.Value), next.read? word = some value → scalar.read? word = none
  | .many _ :: _ => False

/-- Every list among the fields ends where the next field starts. -/
def Separated : List Field → Prop
  | [] => True
  | .one _ :: others => Separated others
  | .many scalar :: others => EndsList scalar others ∧ Separated others

/-! ## Fields -/

/-- The words are read as the value of the field, whatever follows them. -/
def Field.Reads : (field : Field) → List Word → field.Value → Prop
  | .one scalar, words, value => ∃ word, words = [word] ∧ scalar.read? word = some value
  | .many scalar, words, values => ReadAs scalar.read? words values

/-- The words fall into one part for each field, which is read as its value. -/
def ReadsValues : (fields : List Field) → List Word → Values fields → Prop
  | [], words, _ => words = []
  | field :: others, words, (value, rest) =>
      ∃ front back, words = front ++ back ∧ field.Reads front value ∧ ReadsValues others back rest

theorem Field.reads_of_take? {field : Field} {words rest : List Word} {value : field.Value}
    (taken : field.take? words = some (value, rest)) :
    ∃ front, words = front ++ rest ∧ field.Reads front value := by
  cases field with
  | one scalar =>
      cases words with
      | nil => cases taken
      | cons next others =>
          obtain ⟨read, found, same⟩ := Option.map_eq_some_iff.mp taken
          obtain ⟨rfl, rfl⟩ := Prod.mk.inj same
          exact ⟨[next], rfl, next, rfl, found⟩
  | many scalar =>
      obtain ⟨front, whole, reads, -⟩ := Reader.many_word_eq_iff.mp (Option.some.inj taken)
      exact ⟨front, whole, reads⟩

theorem reads_of_takeValues? {fields : List Field} {words rest : List Word}
    {values : Values fields} (taken : takeValues? fields words = some (values, rest)) :
    ∃ front, words = front ++ rest ∧ ReadsValues fields front values := by
  induction fields generalizing words with
  | nil =>
      obtain ⟨-, rfl⟩ := Prod.mk.inj (Option.some.inj taken)
      exact ⟨[], rfl, rfl⟩
  | cons field others inductionHypothesis =>
      obtain ⟨⟨value, left⟩, first, taken⟩ := Option.bind_eq_some_iff.mp taken
      obtain ⟨⟨later, left'⟩, remaining, same⟩ := Option.bind_eq_some_iff.mp taken
      obtain ⟨rfl, rfl⟩ := Prod.mk.inj (Option.some.inj same)
      obtain ⟨front, rfl, reads⟩ := Field.reads_of_take? first
      obtain ⟨back, rfl, readsLater⟩ := inductionHypothesis remaining
      exact ⟨front ++ back, (List.append_assoc _ _ _).symm, front, back, rfl, reads, readsLater⟩

/-- The first word of the fields ends a list in front of them. -/
theorem ReadsValues.ends {scalar : Scalar} {fields : List Field} (endsList : EndsList scalar fields)
    {words : List Word} {values : Values fields} (reads : ReadsValues fields words values) :
    ∀ next ∈ words.head?, scalar.read? next = none := by
  cases fields with
  | nil =>
      obtain rfl : words = [] := reads
      simp
  | cons field others =>
      obtain ⟨front, back, rfl, readsFirst, -⟩ := reads
      cases field with
      | one next =>
          obtain ⟨word, rfl, read⟩ := readsFirst
          simpa using endsList word values.1 read
      | many next => exact endsList.elim

/-- Nothing but the longest run can be the items of a list, so that the words are taken
as the values that they can be read as. -/
theorem takeValues?_eq_some_iff {fields : List Field} (separated : Separated fields)
    {words : List Word} {values : Values fields} :
    takeValues? fields words = some (values, []) ↔ ReadsValues fields words values := by
  constructor
  · intro taken
    obtain ⟨front, rfl, reads⟩ := reads_of_takeValues? taken
    rwa [List.append_nil]
  · intro reads
    induction fields generalizing words with
    | nil =>
        obtain rfl : words = [] := reads
        rfl
    | cons field others inductionHypothesis =>
        rcases values with ⟨value, rest⟩
        obtain ⟨front, back, rfl, readsFirst, readsLater⟩ := reads
        cases field with
        | one scalar =>
            obtain ⟨word, rfl, read⟩ := readsFirst
            have taken : Field.take? (.one scalar) ([word] ++ back) = some (value, back) := by
              change (scalar.read? word).map _ = _
              rw [read, Option.map_some]
              rfl
            simp only [takeValues?, taken, inductionHypothesis separated readsLater,
              Option.bind_eq_bind, Option.bind_some, Option.pure_def]
        | many scalar =>
            have taken : Field.take? (.many scalar) (front ++ back) = some (value, back) :=
              congrArg some (Reader.many_word_eq_iff.mpr
                ⟨front, rfl, readsFirst, ReadsValues.ends separated.1 readsLater⟩)
            simp only [takeValues?, taken, inductionHypothesis separated.2 readsLater,
              Option.bind_eq_bind, Option.bind_some, Option.pure_def]

/-! ## Sound fields -/

def Field.Sound : (field : Field) → field.Value → Prop
  | .one scalar, value => scalar.Sound value
  | .many scalar, values => ∀ value ∈ values, scalar.Sound value

def SoundValues : (fields : List Field) → Values fields → Prop
  | [], _ => True
  | field :: others, (value, rest) => field.Sound value ∧ SoundValues others rest

theorem Field.unbroken_words {field : Field} {value : field.Value} (sound : field.Sound value) :
    ∀ word ∈ field.words value, Unbroken word := by
  intro word member
  cases field with
  | one scalar =>
      obtain rfl := List.mem_singleton.mp member
      exact sound.unbroken
  | many scalar =>
      obtain ⟨item, inValue, rfl⟩ := List.mem_map.mp member
      exact (sound item inValue).unbroken

theorem unbroken_valueWords {fields : List Field} {values : Values fields}
    (sound : SoundValues fields values) : ∀ word ∈ valueWords fields values, Unbroken word := by
  induction fields with
  | nil =>
      intro word member
      simp [valueWords] at member
  | cons field others inductionHypothesis =>
      rcases values with ⟨value, rest⟩
      intro word member
      rcases List.mem_append.mp member with here | later
      · exact Field.unbroken_words sound.1 word here
      · exact inductionHypothesis sound.2 word later

theorem Field.Sound.reads_words {field : Field} {value : field.Value} (sound : field.Sound value) :
    field.Reads (field.words value) value := by
  cases field with
  | one scalar => exact ⟨scalar.write value, rfl, sound.reads⟩
  | many scalar =>
      change List.Forall₂ _ (List.map scalar.write value) value
      rw [List.forall₂_map_left_iff, List.forall₂_same]
      exact fun item member => (sound item member).reads

theorem SoundValues.reads_valueWords {fields : List Field} {values : Values fields}
    (sound : SoundValues fields values) :
    ReadsValues fields (valueWords fields values) values := by
  induction fields with
  | nil => rfl
  | cons field others inductionHypothesis =>
      rcases values with ⟨value, rest⟩
      exact ⟨field.words value, valueWords others rest, rfl, Field.Sound.reads_words sound.1,
        inductionHypothesis sound.2⟩

theorem Field.Reads.sound {field : Field} {words : List Word} {value : field.Value}
    (reads : field.Reads words value) (unbroken : ∀ word ∈ words, Unbroken word) :
    field.Sound value := by
  cases field with
  | one scalar =>
      obtain ⟨word, rfl, read⟩ := reads
      exact Scalar.sound_of_read? (unbroken word List.mem_cons_self) read
  | many scalar =>
      change ∀ item ∈ value, scalar.Sound item
      change List.Forall₂ _ words value at reads
      induction reads with
      | nil => exact List.forall_mem_nil _
      | cons read _ inductionHypothesis =>
          rw [List.forall_mem_cons] at unbroken ⊢
          exact ⟨Scalar.sound_of_read? unbroken.1 read, inductionHypothesis unbroken.2⟩

/-- Values that are read are sound, however their words spelled them. -/
theorem ReadsValues.sound {fields : List Field} {words : List Word} {values : Values fields}
    (reads : ReadsValues fields words values) (unbroken : ∀ word ∈ words, Unbroken word) :
    SoundValues fields values := by
  induction fields generalizing words with
  | nil => trivial
  | cons field others inductionHypothesis =>
      rcases values with ⟨value, rest⟩
      obtain ⟨front, back, rfl, readsFirst, readsLater⟩ := reads
      rw [List.forall_mem_append] at unbroken
      exact ⟨readsFirst.sound unbroken.1, inductionHypothesis readsLater unbroken.2⟩

/-! ## Messages -/

/-- A keyword that is one word and keeps its first character. -/
def Variant.Legible (variant : Variant) : Prop :=
  Unbroken variant.keyword.toList ∧ dropMark variant.keyword.toList = variant.keyword.toList

instance (variant : Variant) : Decidable variant.Legible :=
  inferInstanceAs (Decidable (_ ∧ _))

/-- Every variant can be told from its keyword and its words. -/
def Schema.Legible (schema : Schema) : Prop :=
  ∀ variant ∈ schema, variant.Legible ∧ Separated variant.fields

namespace Message

theorem words_encode {variant : Variant} {values : Values variant.fields}
    (unbroken : Unbroken variant.keyword.toList) (sound : SoundValues variant.fields values) :
    words (encode ⟨variant, values⟩).toList =
      variant.keyword.toList :: valueWords variant.fields values := by
  unfold encode
  rw [String.toList_ofList, putValues_eq]
  exact words_flatMap_spaced unbroken (unbroken_valueWords sound)

/-- The schema has the variant and no earlier one of its keyword. -/
def Declares (schema : Schema) (variant : Variant) : Prop :=
  schema.find? (fun other => other.keyword == variant.keyword) = some variant

/-- A line is decoded to the message whose keyword its first word is, with or without a
mark, and whose values are taken from its other words. -/
theorem decode?_eq_some_iff_taken {schema : Schema} {line : String} {message : Message} :
    decode? schema line = some message ↔
      Declares schema message.variant ∧
        ∃ first others, words line.toList = first :: others ∧
          dropMark first = message.variant.keyword.toList ∧
          takeValues? message.variant.fields others = some (message.values, []) := by
  rcases message with ⟨variant, values⟩
  constructor
  · intro decoded
    obtain ⟨⟨keyword, rest⟩, front, decoded⟩ := Option.bind_eq_some_iff.mp decoded
    obtain ⟨found, declared, decoded⟩ := Option.bind_eq_some_iff.mp decoded
    unfold ofWords? at decoded
    split at decoded
    · next read taken =>
        obtain ⟨rfl, same⟩ := Message.mk.inj (Option.some.inj decoded)
        obtain rfl := eq_of_heq same
        have same := List.find?_some declared
        obtain rfl := eq_of_beq same
        unfold takeKeyword? Reader.word at front
        split at front
        · cases front
        · next first others split =>
            obtain ⟨named, rfl⟩ := Prod.mk.inj (Option.some.inj front)
            refine ⟨declared, first, others, split, ?_, taken⟩
            rw [← named, String.toList_ofList]
    · cases decoded
  · rintro ⟨declared, first, others, split, named, taken⟩
    have keyword : takeKeyword? (words line.toList) = some (variant.keyword, others) := by
      rw [split]
      simp only [takeKeyword?, Reader.word, Option.map_some, named, String.ofList_toList]
    unfold Declares at declared
    simp only [decode?, keyword, declared, Option.bind_eq_bind, Option.bind_some, ofWords?, taken]

/-- A line is decoded to the messages whose keyword its first word is, with or without a
mark, and whose values its other words are read as. -/
theorem decode?_eq_some_iff {schema : Schema} (legible : schema.Legible) {line : String}
    {message : Message} :
    decode? schema line = some message ↔
      Declares schema message.variant ∧
        ∃ first others, words line.toList = first :: others ∧
          dropMark first = message.variant.keyword.toList ∧
          ReadsValues message.variant.fields others message.values := by
  rw [decode?_eq_some_iff_taken]
  refine and_congr_right fun declared => ?_
  obtain ⟨-, separated⟩ := legible message.variant (List.mem_of_find?_eq_some declared)
  simp only [takeValues?_eq_some_iff separated]

/-- The message is of a variant that the schema declares, and its values are sound. -/
def Admissible (schema : Schema) (message : Message) : Prop :=
  Declares schema message.variant ∧ SoundValues message.variant.fields message.values

theorem decode?_encode {schema : Schema} {message : Message} (legible : schema.Legible)
    (admissible : message.Admissible schema) : decode? schema message.encode = some message := by
  obtain ⟨declared, sound⟩ := admissible
  obtain ⟨readable, -⟩ := legible message.variant (List.mem_of_find?_eq_some declared)
  rw [decode?_eq_some_iff legible]
  exact ⟨declared, message.variant.keyword.toList, _, words_encode readable.1 sound, readable.2,
    sound.reads_valueWords⟩

theorem admissible_of_decode? {schema : Schema} (legible : schema.Legible) {line : String}
    {message : Message} (decoded : decode? schema line = some message) :
    message.Admissible schema := by
  obtain ⟨declared, first, others, split, -, reads⟩ := (decode?_eq_some_iff legible).mp decoded
  refine ⟨declared, reads.sound fun word member => ?_⟩
  have among : word ∈ words line.toList := by
    rw [split]
    exact List.mem_cons_of_mem first member
  exact unbroken_of_mem_words among

end Message

/-! ## Protocols -/

namespace Datagram

/-- The operators that a datagram names. -/
def operators? : Datagram → Option OperatorSet
  | .alive _ operators => some operators
  | _ => none

theorem legible_schema : schema.Legible := by
  intro variant member
  simp only [schema, List.mem_cons, List.not_mem_nil, or_false] at member
  rcases member with rfl | rfl | rfl
  · exact ⟨by decide, trivial⟩
  · refine ⟨by decide, fun word ceiling read => ?_, trivial⟩
    exact Endpoint.parse?_of_isNatural (word64?_eq_some_iff.mp read)
  · exact ⟨by decide, trivial⟩

theorem admissible_iff (datagram : Datagram) :
    datagram.toMessage.Admissible schema ↔ ∀ set ∈ datagram.operators?, set.Written := by
  cases datagram with
  | hello =>
      refine ⟨fun _ => ?_, fun _ => ⟨rfl, trivial⟩⟩
      intro set named
      cases named
  | init peers ceiling =>
      refine ⟨fun _ => ?_, fun _ => ⟨rfl, ?_⟩⟩
      · intro set named
        cases named
      · exact ⟨fun peer _ => Scalar.sound_endpoint peer, Scalar.sound_word64 ceiling, trivial⟩
  | alive tcp operators =>
      constructor
      · intro ⟨_, _, sound, _⟩ set named
        obtain rfl := Option.some.inj named
        exact OperatorSet.written_of_parse? sound.reads
      · intro written
        exact ⟨rfl, Scalar.sound_word16 tcp, Scalar.sound_operators (written operators rfl),
          trivial⟩

theorem decode?_encode {datagram : Datagram} (written : ∀ set ∈ datagram.operators?, set.Written) :
    decode? datagram.encode = some datagram := by
  rw [decode?, encode, Message.decode?_encode legible_schema ((admissible_iff datagram).mpr written)]
  exact ofMessage?_toMessage datagram

/-- Every snapshot is read back. -/
theorem decode?_encode_init (peers : List Endpoint) (ceiling : UInt64) :
    decode? (init peers ceiling).encode = some (.init peers ceiling) :=
  decode?_encode fun _ named => by cases named

end Datagram

namespace NodeRequest

theorem legible_schema : schema.Legible := by
  intro variant member
  simp only [schema, List.mem_cons, List.not_mem_nil, or_false] at member
  rcases member with rfl | rfl | rfl | rfl | rfl
  all_goals exact ⟨by decide, trivial⟩

theorem admissible (request : NodeRequest) : request.toMessage.Admissible schema := by
  cases request with
  | share value => exact ⟨rfl, Scalar.sound_word64 value, trivial⟩
  | commit value => exact ⟨rfl, Scalar.sound_word64 value, trivial⟩
  | rollback => exact ⟨rfl, trivial⟩
  | compute left operator right =>
      exact ⟨rfl, Scalar.sound_integer left, Scalar.sound_operator operator,
        Scalar.sound_integer right, trivial⟩
  | getLogs => exact ⟨rfl, trivial⟩

theorem decode?_encode (request : NodeRequest) : decode? request.encode = some request := by
  rw [decode?, encode, Message.decode?_encode legible_schema request.admissible]
  exact ofMessage?_toMessage request

end NodeRequest

namespace Vote

theorem legible_schema : schema.Legible := by
  intro variant member
  simp only [schema, List.mem_cons, List.not_mem_nil, or_false] at member
  rcases member with rfl | rfl
  all_goals exact ⟨by decide, trivial⟩

theorem admissible (vote : Vote) : vote.toMessage.Admissible schema := by
  cases vote with
  | accept => exact ⟨rfl, trivial⟩
  | reject => exact ⟨rfl, trivial⟩

theorem decode?_encode (vote : Vote) : decode? vote.encode = some vote := by
  rw [decode?, encode, Message.decode?_encode legible_schema vote.admissible]
  exact ofMessage?_toMessage vote

end Vote

end ArithmeticCloud.Wire
