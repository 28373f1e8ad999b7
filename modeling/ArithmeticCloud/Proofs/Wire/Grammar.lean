import ArithmeticCloud.Proofs.Wire.Canonical

/-!
Contract: which lines are decoded to which messages.

Owns:
- the form of a line, which is a keyword, with or without an exclamation mark in front,
  and the words of the fields;
- the grammars of the three protocols, said of words and their characters;
- decoding accepts the lines of the grammar and no others.

Does not own: which words are endpoints.
-/

namespace ArithmeticCloud

open Text Network

namespace Wire

/-! ## Words of operators -/

/-- The word is a row of operator symbols, at least one. The set has these operators, in
the order in which each is first seen. -/
def IsOperators (word : Word) (set : OperatorSet) : Prop :=
  ∃ operators : List Operator, operators ≠ [] ∧ word = operators.map Operator.symbol ∧
    set.members = operators.eraseDups

theorem operatorSet_parse?_eq_some_iff {word : Word} {set : OperatorSet} :
    OperatorSet.parse? word = some set ↔ IsOperators word set := by
  unfold OperatorSet.parse?
  constructor
  · intro read
    split at read
    · cases read
    · next nonempty =>
        obtain ⟨operators, symbols, rfl⟩ := Option.map_eq_some_iff.mp read
        obtain rfl := OperatorSet.mapM_ofSymbol?_eq_some_iff.mp symbols
        refine ⟨operators, ?_, rfl, OperatorSet.members_ofList operators⟩
        rintro rfl
        exact nonempty rfl
  · rintro ⟨operators, nonempty, rfl, members⟩
    have several : (operators.map Operator.symbol).isEmpty = false := by
      rw [List.isEmpty_eq_false_iff, Ne, List.map_eq_nil_iff]
      exact nonempty
    rw [several, OperatorSet.mapM_ofSymbol?_eq_some_iff.mpr rfl, Option.map_some]
    refine congrArg some ?_
    show OperatorSet.ofList operators = ⟨set.members⟩
    rw [members, ← OperatorSet.members_ofList]

/-! ## Lines -/

/-- The line is a keyword, with or without an exclamation mark in front, and words of a
form. There are blanks between the words, and perhaps around them. -/
def IsLineOf (keyword : String) (Form : List Word → Prop) (line : String) : Prop :=
  ∃ first others, SplitsInto line.toList (first :: others) ∧
    (first = keyword.toList ∨ first = '!' :: keyword.toList) ∧ Form others

theorem dropMark_eq_iff {keyword word : Word} (markless : dropMark keyword = keyword) :
    dropMark word = keyword ↔ word = keyword ∨ word = '!' :: keyword := by
  constructor
  · intro named
    unfold dropMark at named
    split at named
    · exact .inr (congrArg ('!' :: ·) named)
    · exact .inl named
  · rintro (rfl | rfl)
    · exact markless
    · rfl

theorem isLineOf_congr {Form Other : List Word → Prop} (same : ∀ words, Form words ↔ Other words)
    (keyword line : String) : IsLineOf keyword Form line ↔ IsLineOf keyword Other line := by
  unfold IsLineOf
  simp only [same]

section Views

variable {α : Type} {schema : Schema} {toMessage : α → Message} {ofMessage? : Message → Option α}

/-- A view reads the lines whose words are read as the values of its message. -/
theorem view_eq_some_iff (legible : schema.Legible)
    (viewed : ∀ value, ofMessage? (toMessage value) = some value)
    (unviewed : ∀ message value, ofMessage? message = some value → toMessage value = message)
    {value : α} (declared : Message.Declares schema (toMessage value).variant) (line : String) :
    (Message.decode? schema line).bind ofMessage? = some value ↔
      IsLineOf (toMessage value).variant.keyword
        (fun others => ReadsValues (toMessage value).variant.fields others (toMessage value).values)
        line := by
  obtain ⟨⟨-, markless⟩, -⟩ := legible _ (List.mem_of_find?_eq_some declared)
  have whole : (Message.decode? schema line).bind ofMessage? = some value ↔
      Message.decode? schema line = some (toMessage value) := by
    rw [Option.bind_eq_some_iff]
    constructor
    · rintro ⟨message, decoded, view⟩
      rw [unviewed message value view]
      exact decoded
    · intro decoded
      exact ⟨toMessage value, decoded, viewed value⟩
  rw [whole, Message.decode?_eq_some_iff legible]
  unfold IsLineOf
  simp only [declared, true_and, words_eq_iff, dropMark_eq_iff markless]

end Views

/-! ## Fields -/

section Fields

variable {others : List Field} {words : List Word}

theorem readsValues_one_iff {scalar : Scalar} {value : scalar.Value} {rest : Values others} :
    ReadsValues (.one scalar :: others) words (value, rest) ↔
      ∃ word back, words = word :: back ∧ scalar.read? word = some value ∧
        ReadsValues others back rest := by
  constructor
  · rintro ⟨front, back, rfl, ⟨word, rfl, read⟩, reads⟩
    exact ⟨word, back, rfl, read, reads⟩
  · rintro ⟨word, back, rfl, read, reads⟩
    exact ⟨[word], back, rfl, ⟨word, rfl, read⟩, reads⟩

/-- The last field is the last word. -/
theorem readsValues_last_iff {scalar : Scalar} {value : scalar.Value} :
    ReadsValues [.one scalar] words (value, ()) ↔
      ∃ word, words = [word] ∧ scalar.read? word = some value := by
  rw [readsValues_one_iff]
  constructor
  · rintro ⟨word, back, rfl, read, rfl⟩
    exact ⟨word, rfl, read⟩
  · rintro ⟨word, rfl, read⟩
    exact ⟨word, [], rfl, read, rfl⟩

end Fields

/-! ## Protocols -/

namespace Datagram

/-- The lines of a datagram. -/
def Spelled : Datagram → String → Prop
  | .hello => IsLineOf "hello" fun words => words = []
  | .init peers ceiling => IsLineOf "init" fun words =>
      ∃ addresses last, words = addresses ++ [last] ∧
        List.Forall₂ (fun word peer => Endpoint.parse? word = some peer) addresses peers ∧
        IsNatural last ceiling.toNat
  | .alive tcp operators => IsLineOf "alive" fun words =>
      ∃ port symbols, words = [port, symbols] ∧ IsNatural port tcp.toNat ∧
        IsOperators symbols operators

theorem decode?_eq_some_iff (line : String) (datagram : Datagram) :
    decode? line = some datagram ↔ datagram.Spelled line := by
  have declared : Message.Declares schema datagram.toMessage.variant := by
    cases datagram <;> rfl
  refine (view_eq_some_iff legible_schema ofMessage?_toMessage toMessage_of_ofMessage?
    declared line).trans ?_
  cases datagram with
  | hello => exact Iff.rfl
  | init peers ceiling =>
      apply isLineOf_congr
      intro words
      show (∃ addresses back, words = addresses ++ back ∧ _ ∧
        ReadsValues [.one .word64] back (ceiling, ())) ↔ _
      constructor
      · rintro ⟨addresses, back, rfl, reads, readsLast⟩
        obtain ⟨last, rfl, read⟩ := readsValues_last_iff.mp readsLast
        exact ⟨addresses, last, rfl, reads, word64?_eq_some_iff.mp read⟩
      · rintro ⟨addresses, last, rfl, reads, isNatural⟩
        exact ⟨addresses, [last], rfl, reads, readsValues_last_iff.mpr
          ⟨last, rfl, word64?_eq_some_iff.mpr isNatural⟩⟩
  | alive tcp operators =>
      apply isLineOf_congr
      intro words
      refine readsValues_one_iff.trans ?_
      constructor
      · rintro ⟨port, back, rfl, read, reads⟩
        obtain ⟨symbols, rfl, readSymbols⟩ := readsValues_last_iff.mp reads
        exact ⟨port, symbols, rfl, word16?_eq_some_iff.mp read,
          operatorSet_parse?_eq_some_iff.mp readSymbols⟩
      · rintro ⟨port, symbols, rfl, isPort, areOperators⟩
        exact ⟨port, [symbols], rfl, word16?_eq_some_iff.mpr isPort, readsValues_last_iff.mpr
          ⟨symbols, rfl, operatorSet_parse?_eq_some_iff.mpr areOperators⟩⟩

end Datagram

namespace NodeRequest

/-- The lines of a request. -/
def Spelled : NodeRequest → String → Prop
  | .share value => IsLineOf "share" fun words => ∃ word, words = [word] ∧ IsNatural word value.toNat
  | .commit value => IsLineOf "commit" fun words =>
      ∃ word, words = [word] ∧ IsNatural word value.toNat
  | .rollback => IsLineOf "rollback" fun words => words = []
  | .compute left operator right => IsLineOf "compute" fun words =>
      ∃ first second, words = [first, [operator.symbol], second] ∧ IsInteger first left.toInt ∧
        IsInteger second right.toInt
  | .getLogs => IsLineOf "getlogs" fun words => words = []

theorem decode?_eq_some_iff (line : String) (request : NodeRequest) :
    decode? line = some request ↔ request.Spelled line := by
  have share (words : List Word) (value : UInt64) :
      ReadsValues [.one .word64] words (value, ()) ↔
        ∃ word, words = [word] ∧ IsNatural word value.toNat := by
    rw [readsValues_last_iff]
    simp only [Scalar.read?, word64?_eq_some_iff]
  have declared : Message.Declares schema request.toMessage.variant := by
    cases request <;> rfl
  refine (view_eq_some_iff legible_schema ofMessage?_toMessage toMessage_of_ofMessage?
    declared line).trans ?_
  cases request with
  | share value => exact isLineOf_congr (fun words => share words value) _ line
  | commit value => exact isLineOf_congr (fun words => share words value) _ line
  | rollback => exact Iff.rfl
  | getLogs => exact Iff.rfl
  | compute left operator right =>
      apply isLineOf_congr
      intro words
      refine readsValues_one_iff.trans ?_
      constructor
      · rintro ⟨first, back, rfl, readLeft, reads⟩
        obtain ⟨middle, back, rfl, readOperator, reads⟩ := readsValues_one_iff.mp reads
        obtain ⟨second, rfl, readRight⟩ := readsValues_last_iff.mp reads
        obtain rfl := Operator.parse?_eq_some_iff.mp readOperator
        exact ⟨first, second, rfl, int64?_eq_some_iff.mp readLeft,
          int64?_eq_some_iff.mp readRight⟩
      · rintro ⟨first, second, rfl, isLeft, isRight⟩
        exact ⟨first, _, rfl, int64?_eq_some_iff.mpr isLeft, readsValues_one_iff.mpr
          ⟨_, _, rfl, Operator.parse?_eq_some_iff.mpr rfl, readsValues_last_iff.mpr
            ⟨second, rfl, int64?_eq_some_iff.mpr isRight⟩⟩⟩

end NodeRequest

namespace Vote

/-- The lines of a vote. -/
def Spelled : Vote → String → Prop
  | .accept => IsLineOf "ok" fun words => words = []
  | .reject => IsLineOf "nok" fun words => words = []

theorem decode?_eq_some_iff (line : String) (vote : Vote) :
    decode? line = some vote ↔ vote.Spelled line := by
  have declared : Message.Declares schema vote.toMessage.variant := by
    cases vote <;> rfl
  refine (view_eq_some_iff legible_schema ofMessage?_toMessage toMessage_of_ofMessage?
    declared line).trans ?_
  cases vote with
  | accept => exact Iff.rfl
  | reject => exact Iff.rfl

end Vote

/-- A line is decoded exactly to the messages that it spells, in each protocol. -/
theorem lines_are_decoded_as_spelled :
    (∀ line datagram, Datagram.decode? line = some datagram ↔ datagram.Spelled line) ∧
      (∀ line request, NodeRequest.decode? line = some request ↔ request.Spelled line) ∧
      ∀ line vote, Vote.decode? line = some vote ↔ vote.Spelled line :=
  ⟨Datagram.decode?_eq_some_iff, NodeRequest.decode?_eq_some_iff, Vote.decode?_eq_some_iff⟩

/-- An `alive` under a mark, with a signed port, a repeated operator and blanks of several
kinds around its words. -/
example : Datagram.decode? "\t!alive  +07000 *+*\n" = some (.alive 7000 ⟨[.mul, .add]⟩) := by
  decide +kernel

end Wire

end ArithmeticCloud
