import ArithmeticCloud.Proofs.Wire.Messages
import ArithmeticCloud.Wire.Derivation
import Mathlib.Data.List.Nodup

/-!
Contract: which messages of a derived protocol are read back from their lines.

Owns:
- the schemas that can be derived, which are those of distinct one-word keywords;
- plain values, which are read back word by word;
- `ListsEnd`, that no list of a message is followed by a word that it would take;
- the messages that are decoded to themselves: their lists end, and their keyword
  has no mark in front that decoding would drop.

Does not own: the protocols of the cloud, whose lists end whatever they hold.
-/

namespace ArithmeticCloud.Wire

open Text Network

/-! ## Derived schemas -/

/-- Keywords of one word, of which no two are equal. -/
structure Schema.WellKeyed (schema : Schema) : Prop where
  unbroken : ∀ variant ∈ schema, Unbroken variant.keyword.toList
  distinct : schema.keywords.Nodup

/-- In a sorted list, equal items stand next to each other. -/
theorem find?_neighbours_eq_none_iff {sorted : List String} (inOrder : sorted.Pairwise (· ≤ ·)) :
    ((sorted.zip sorted.tail).find? fun pair => pair.1 == pair.2) = none ↔ sorted.Nodup := by
  induction sorted with
  | nil => simp
  | cons first others inductionHypothesis =>
      obtain ⟨least, othersInOrder⟩ := List.pairwise_cons.mp inOrder
      cases others with
      | nil => simp
      | cons second rest =>
          have apart : first ∉ second :: rest ↔ first ≠ second := by
            refine ⟨fun absent => List.ne_of_not_mem_cons absent, fun differ member => ?_⟩
            rcases List.mem_cons.mp member with same | later
            · exact differ same
            · have below : second ≤ first := List.rel_of_pairwise_cons othersInOrder later
              exact differ (String.le_antisymm (least second List.mem_cons_self) below)
          rw [List.nodup_cons, apart, ← inductionHypothesis othersInOrder]
          simp [List.find?_eq_none]

theorem Schema.duplicate?_eq_none_iff {schema : Schema} :
    schema.duplicate? = none ↔ schema.keywords.Nodup := by
  have sorted := @List.pairwise_mergeSort String (fun left right => decide (left ≤ right))
    (fun left middle right => by simpa using String.le_trans)
    (fun left right => by simpa using String.le_total left right) schema.keywords
  have inOrder := sorted.imp fun before => of_decide_eq_true before
  rw [duplicate?, Option.map_eq_none_iff, find?_neighbours_eq_none_iff inOrder]
  exact (List.mergeSort_perm _ _).nodup_iff

theorem Schema.checked_eq_ok_iff {schema result : Schema} :
    schema.checked = .ok result ↔ schema = result ∧ schema.keywords.Nodup := by
  rw [← duplicate?_eq_none_iff, checked]
  cases schema.duplicate? <;> simp

/-- The first keyword that is not one word is refused. -/
theorem VariantDeclaration.derive_eq_ok_iff {declared : VariantDeclaration} {variant : Variant} :
    declared.derive = .ok variant ↔
      declared.keyword = .ok variant.keyword ∧ declared.fields = variant.fields ∧
        Unbroken variant.keyword.toList := by
  rcases variant with ⟨keyword, fields⟩
  unfold derive
  cases declared.keyword with
  | error problem => simp [Except.bind]
  | ok given =>
      by_cases broken : given.toList.isEmpty || given.toList.any isBlank
      · have refused : ¬ Unbroken given.toList := by
          simpa [Unbroken, or_iff_not_imp_left] using broken
        simp only [Except.bind, if_pos broken, reduceCtorEq, Except.ok.injEq, false_iff]
        rintro ⟨rfl, -, unbroken⟩
        exact refused unbroken
      · have unbroken : Unbroken given.toList := by
          simpa [Unbroken] using broken
        simp only [Except.bind, if_neg broken, Except.ok.injEq, Variant.mk.injEq]
        constructor
        · rintro ⟨rfl, rfl⟩
          exact ⟨rfl, rfl, unbroken⟩
        · rintro ⟨rfl, rfl, -⟩
          exact ⟨rfl, rfl⟩

theorem mapM_derive_eq_ok_iff {declared : List VariantDeclaration} {schema : Schema} :
    declared.mapM VariantDeclaration.derive = .ok schema ↔
      List.Forall₂ (fun given variant => given.derive = .ok variant) declared schema := by
  induction declared generalizing schema with
  | nil => cases schema <;> simp [pure, Except.pure]
  | cons first others inductionHypothesis =>
      rw [List.mapM_cons]
      cases schema with
      | nil =>
          cases first.derive <;> cases others.mapM VariantDeclaration.derive <;>
            simp [bind, Except.bind, pure, Except.pure]
      | cons variant rest =>
          rw [List.forall₂_cons, ← inductionHypothesis]
          cases first.derive <;> cases others.mapM VariantDeclaration.derive <;>
            simp [bind, Except.bind, pure, Except.pure]

theorem Parameter.no_error_iff {parameters : List Parameter} :
    parameters.findSome? error? = none ↔ ∀ parameter ∈ parameters, parameter = .type := by
  rw [List.findSome?_eq_none_iff]
  refine forall₂_congr fun parameter _ => ?_
  cases parameter <;> simp [error?]

theorem Declaration.derive_eq_ok_iff {declaration : Declaration} {schema : Schema} :
    declaration.derive = .ok schema ↔
      (∀ parameter ∈ declaration.parameters, parameter = .type) ∧
        ∃ declared, declaration.variants? = some declared ∧
          List.Forall₂ (fun given variant => given.derive = .ok variant) declared schema ∧
          schema.keywords.Nodup := by
  unfold derive
  rw [← Parameter.no_error_iff]
  cases declaration.parameters.findSome? Parameter.error? with
  | some problem => simp
  | none =>
      cases declaration.variants? with
      | none => simp
      | some declared =>
          simp only [true_and, Option.some.injEq, exists_eq_left', ← mapM_derive_eq_ok_iff]
          cases declared.mapM VariantDeclaration.derive with
          | error problem => simp [Except.bind]
          | ok derived =>
              simp only [Except.bind, Schema.checked_eq_ok_iff, Except.ok.injEq]
              exact and_congr_right fun same => by rw [same]

/-- Exactly the schemas of distinct one-word keywords are derived from declarations. -/
theorem Schema.wellKeyed_iff_derived {schema : Schema} :
    schema.WellKeyed ↔ ∃ declaration : Declaration, declaration.derive = .ok schema := by
  constructor
  · intro wellKeyed
    refine ⟨⟨[], some (schema.map fun variant => ⟨"", [variant.keyword], variant.fields⟩)⟩, ?_⟩
    rw [Declaration.derive_eq_ok_iff]
    refine ⟨List.forall_mem_nil _, _, rfl, ?_, wellKeyed.distinct⟩
    rw [List.forall₂_map_left_iff, List.forall₂_same]
    intro variant member
    rw [VariantDeclaration.derive_eq_ok_iff]
    exact ⟨rfl, rfl, wellKeyed.unbroken variant member⟩
  · rintro ⟨declaration, derived⟩
    obtain ⟨-, declared, -, matched, distinct⟩ := Declaration.derive_eq_ok_iff.mp derived
    have unbroken : List.Forall₂ (fun variant _ => Unbroken variant.keyword.toList ∧ True)
        schema declared :=
      .flip (matched.imp fun _ _ derived =>
        ⟨(VariantDeclaration.derive_eq_ok_iff.mp derived).2.2, trivial⟩)
    exact ⟨(List.forall₂_and_left _ _).mp unbroken |>.1, distinct⟩

/-! ## Plain values -/

/-- Texts and sets of operators can hold what no word can; an endpoint has a text that is
read as the endpoint. -/
def Scalar.Plain : (scalar : Scalar) → scalar.Value → Prop
  | .text, value => Unbroken value.toList
  | .operators, value => value.Written
  | .endpoint, value => Endpoint.parse? value.text = some value
  | _, _ => True

theorem Scalar.Plain.sound {scalar : Scalar} {value : scalar.Value} (plain : scalar.Plain value) :
    scalar.Sound value := by
  cases scalar with
  | word16 => exact sound_word16 value
  | word32 => exact sound_word32 value
  | word64 => exact sound_word64 value
  | integer => exact sound_integer value
  | endpoint => exact ⟨value.unbroken_text, plain⟩
  | operator => exact sound_operator value
  | operators => exact sound_operators plain
  | text => exact sound_text plain

def Field.Plain : (field : Field) → field.Value → Prop
  | .one scalar, value => scalar.Plain value
  | .many scalar, values => ∀ value ∈ values, scalar.Plain value

def PlainValues : (fields : List Field) → Values fields → Prop
  | [], _ => True
  | field :: others, (value, rest) => field.Plain value ∧ PlainValues others rest

instance Scalar.decidablePlain :
    (scalar : Scalar) → (value : scalar.Value) → Decidable (scalar.Plain value)
  | .text, value => inferInstanceAs (Decidable (Unbroken value.toList))
  | .operators, value => inferInstanceAs (Decidable value.Written)
  | .endpoint, value => inferInstanceAs (Decidable (Endpoint.parse? value.text = some value))
  | .word16, _ | .word32, _ | .word64, _ | .integer, _ | .operator, _ => .isTrue trivial

instance Field.decidablePlain :
    (field : Field) → (value : field.Value) → Decidable (field.Plain value)
  | .one scalar, value => scalar.decidablePlain value
  | .many scalar, values => List.decidableBAll scalar.Plain values

instance decidablePlainValues :
    (fields : List Field) → (values : Values fields) → Decidable (PlainValues fields values)
  | [], _ => .isTrue trivial
  | field :: others, (value, rest) =>
      @instDecidableAnd _ _ (field.decidablePlain value) (decidablePlainValues others rest)

theorem PlainValues.sound {fields : List Field} {values : Values fields}
    (plain : PlainValues fields values) : SoundValues fields values := by
  induction fields with
  | nil => trivial
  | cons field others inductionHypothesis =>
      rcases values with ⟨value, rest⟩
      refine ⟨?_, inductionHypothesis plain.2⟩
      cases field with
      | one scalar => exact plain.1.sound
      | many scalar => exact fun item member => (plain.1 item member).sound

/-! ## Lists that end -/

/-- The words do not start with one that the field would take after its own. -/
def Field.Ends : Field → List Word → Prop
  | .one _, _ => True
  | .many scalar, rest => ∀ next ∈ rest.head?, scalar.read? next = none

/-- No list is followed by a word that it would take, be it of the next field or, where
lists are empty, of a later one. -/
def ListsEnd : (fields : List Field) → Values fields → Prop
  | [], _ => True
  | field :: others, (_, rest) => field.Ends (valueWords others rest) ∧ ListsEnd others rest

instance Field.decidableEnds : (field : Field) → (rest : List Word) → Decidable (field.Ends rest)
  | .one _, _ => .isTrue trivial
  | .many _, [] => .isTrue (by simp [Ends])
  | .many scalar, next :: _ => decidable_of_iff ((scalar.read? next).isNone = true) (by simp [Ends])

instance decidableListsEnd :
    (fields : List Field) → (values : Values fields) → Decidable (ListsEnd fields values)
  | [], _ => .isTrue trivial
  | field :: others, (_, rest) =>
      @instDecidableAnd _ _ (field.decidableEnds (valueWords others rest))
        (decidableListsEnd others rest)

/-- A field takes its own words exactly if it ends with them. -/
theorem Field.take?_words_iff {field : Field} {value : field.Value} (sound : field.Sound value)
    {rest left : List Word} :
    field.take? (field.words value ++ rest) = some (value, left) ↔
      left = rest ∧ field.Ends rest := by
  cases field with
  | one scalar =>
      change (scalar.read? (scalar.write value)).map _ = _ ↔ _
      rw [Scalar.Sound.reads sound]
      simp [Ends, eq_comm]
  | many scalar =>
      have own : ReadAs scalar.read? (value.map scalar.write) value := sound.reads_words
      change some (Reader.many _ _) = _ ↔ _
      rw [Option.some.injEq, Reader.many_word_eq_iff]
      constructor
      · rintro ⟨front, whole, reads, ends⟩
        -- As many words are taken as there are items, which is what was written.
        have sameLength : (value.map scalar.write).length = front.length :=
          own.length_eq.trans reads.length_eq.symm
        obtain ⟨-, rfl⟩ := List.append_inj whole sameLength
        exact ⟨rfl, ends⟩
      · rintro ⟨rfl, ends⟩
        exact ⟨_, rfl, own, ends⟩

/-- The words of the values are taken as the values exactly if every list ends. -/
theorem takeValues?_valueWords_iff {fields : List Field} {values : Values fields}
    (sound : SoundValues fields values) :
    takeValues? fields (valueWords fields values) = some (values, []) ↔
      ListsEnd fields values := by
  induction fields with
  | nil => exact iff_of_true rfl trivial
  | cons field others inductionHypothesis =>
      rcases values with ⟨value, rest⟩
      rw [ListsEnd, ← inductionHypothesis sound.2]
      constructor
      · intro taken
        obtain ⟨⟨first, left⟩, takenFirst, taken⟩ := Option.bind_eq_some_iff.mp taken
        obtain ⟨⟨later, behind⟩, takenLater, same⟩ := Option.bind_eq_some_iff.mp taken
        obtain ⟨⟨rfl, rfl⟩, rfl⟩ : (first = value ∧ later = rest) ∧ behind = [] := by
          simpa using same
        obtain ⟨rfl, ends⟩ := (Field.take?_words_iff sound.1).mp takenFirst
        exact ⟨ends, takenLater⟩
      · rintro ⟨ends, takenLater⟩
        have takenFirst := (Field.take?_words_iff sound.1).mpr ⟨rfl, ends⟩
        simp only [takeValues?, valueWords, takenFirst, takenLater, Option.bind_eq_bind,
          Option.bind_some, Option.pure_def]

/-! ## Messages of a schema -/

/-- Decoding keeps a keyword exactly if it does not start with a mark. -/
theorem dropMark_eq_self_iff {word : Word} : dropMark word = word ↔ word.head? ≠ some '!' := by
  unfold dropMark
  split
  · next rest => exact iff_of_false (List.cons_ne_self '!' rest).symm (by simp)
  · next unmarked =>
      refine iff_of_true rfl fun marked => ?_
      obtain ⟨rest, rfl⟩ := List.head?_eq_some_iff.mp marked
      exact unmarked rest rfl

/-- With distinct keywords, the variant of a keyword is the only one. -/
theorem Schema.WellKeyed.declares {schema : Schema} (wellKeyed : schema.WellKeyed)
    {variant : Variant} (member : variant ∈ schema) : Message.Declares schema variant := by
  have known : (schema.find? fun other => other.keyword == variant.keyword).isSome :=
    List.find?_isSome.mpr ⟨variant, member, beq_self_eq_true variant.keyword⟩
  obtain ⟨other, found⟩ := Option.isSome_iff_exists.mp known
  have same : other.keyword = variant.keyword := eq_of_beq (List.find?_some found :)
  rw [Message.Declares, found, List.inj_on_of_nodup_map wellKeyed.distinct
    (List.mem_of_find?_eq_some found) member same]

namespace Message

/-- A message comes back exactly if decoding leaves its keyword as it is and takes no list
for longer than it is. -/
theorem decode?_encode_eq_iff {schema : Schema} (wellKeyed : schema.WellKeyed) {message : Message}
    (member : message.variant ∈ schema)
    (sound : SoundValues message.variant.fields message.values) :
    decode? schema message.encode = some message ↔
      message.variant.keyword.toList.head? ≠ some '!' ∧
        ListsEnd message.variant.fields message.values := by
  have split := words_encode (wellKeyed.unbroken message.variant member) sound
  rw [← dropMark_eq_self_iff, ← takeValues?_valueWords_iff sound, decode?_eq_some_iff_taken]
  constructor
  · rintro ⟨-, first, others, whole, named, taken⟩
    obtain ⟨rfl, rfl⟩ := List.cons.inj (split.symm.trans whole)
    exact ⟨named, taken⟩
  · rintro ⟨named, taken⟩
    exact ⟨wellKeyed.declares member, _, _, split, named, taken⟩

/-- Messages of a derived protocol with plain values. If every list ends, a message is
decoded to itself exactly if its keyword does not start with a mark; if some list is
followed by a word that it would take, it never is. -/
theorem derived_messages_come_back {declaration : Declaration} {schema : Schema}
    (derived : declaration.derive = .ok schema) {message : Message}
    (member : message.variant ∈ schema)
    (plain : PlainValues message.variant.fields message.values) :
    (ListsEnd message.variant.fields message.values →
      (decode? schema message.encode = some message ↔
        message.variant.keyword.toList.head? ≠ some '!')) ∧
    (¬ ListsEnd message.variant.fields message.values →
      decode? schema message.encode ≠ some message) := by
  have wellKeyed : schema.WellKeyed := Schema.wellKeyed_iff_derived.mpr ⟨declaration, derived⟩
  have comesBack := decode?_encode_eq_iff wellKeyed member plain.sound
  constructor
  · intro ends
    rw [comesBack, and_iff_left ends]
  · intro swallows same
    exact swallows (comesBack.mp same).2

end Message

/-! ## A protocol of three kinds -/

/-- A list of endpoints in front of a list of ports, a marked keyword, and a list of texts
in front of a number. -/
def routing : Declaration where
  parameters := [.type]
  variants? := some
    [⟨"route", [], [.many .endpoint, .many .word16, .one .operators]⟩,
      ⟨"alarm", ["!alarm"], []⟩,
      ⟨"note", [], [.many .text, .one .word16]⟩]

def routingSchema : Schema :=
  [⟨"route", [.many .endpoint, .many .word16, .one .operators]⟩, ⟨"!alarm", []⟩,
    ⟨"note", [.many .text, .one .word16]⟩]

theorem derive_routing : routing.derive = .ok routingSchema := by
  rw [Declaration.derive_eq_ok_iff]
  refine ⟨by decide, _, rfl, ?_, by decide⟩
  exact .cons rfl (.cons rfl (.cons rfl .nil))

/-- No endpoint stands in front of the ports, and no port in front of the operators. The
mark of the second message is dropped; the list of the third also takes the number. -/
theorem Message.derived_messages_come_back_routing :
    (let route : Message := ⟨⟨"route", [.many .endpoint, .many .word16, .one .operators]⟩,
      ([], [7, 8], ⟨[.add, .sub]⟩, ())⟩
    decode? routingSchema route.encode = some route) ∧
    (let alarm : Message := ⟨⟨"!alarm", []⟩, ()⟩
    decode? routingSchema alarm.encode ≠ some alarm) ∧
    (let note : Message := ⟨⟨"note", [.many .text, .one .word16]⟩, (["of"], 7, ())⟩
    decode? routingSchema note.encode ≠ some note) := by
  refine ⟨?_, ?_, ?_⟩
  · exact ((derived_messages_come_back derive_routing (by decide) (by decide)).1
      (by decide +kernel)).mpr (by decide)
  · exact mt ((derived_messages_come_back derive_routing (by decide) (by decide)).1
      (by decide)).mp (by decide)
  · exact (derived_messages_come_back derive_routing (by decide) (by decide)).2 (by decide)

end ArithmeticCloud.Wire
