import ArithmeticCloud.Proofs.Wire.Messages

/-!
Contract: an encoded message is the canonical form of the lines that decode to it.

Owns:
- what it means for encoded messages to be canonical, for any view of messages through
  a schema;
- the three protocols: which messages are read back from their encoding, and that every
  message that some line decodes to is one of them.

Does not own: which lines decode.
-/

namespace ArithmeticCloud.Wire

/-! ## Canonical encodings -/

/-- An encoded message is read back exactly if it is `Encodable`; a message that was
decoded is read back from its encoding; two messages that some lines decode to are
encoded differently. -/
structure Canonical {α : Type} (encode : α → String) (decode? : String → Option α)
    (Encodable : α → Prop) : Prop where
  decodes : ∀ message, decode? (encode message) = some message ↔ Encodable message
  reencodes : ∀ line message, decode? line = some message →
    decode? (encode message) = some message
  injective : ∀ left right, (∃ line, decode? line = some left) →
    (∃ line, decode? line = some right) → encode left = encode right → left = right

section Views

variable {α : Type} {schema : Schema} {toMessage : α → Message} {ofMessage? : Message → Option α}

/-- The encodings of a view are canonical if every variant of the schema can be told
from its line. -/
theorem canonical_of_view {Encodable : α → Prop}
    (legible : schema.Legible)
    (viewed : ∀ value, ofMessage? (toMessage value) = some value)
    (unviewed : ∀ message value, ofMessage? message = some value → toMessage value = message)
    (encodable : ∀ value, (toMessage value).Admissible schema ↔ Encodable value) :
    Canonical (fun value => (toMessage value).encode)
      (fun line => (Message.decode? schema line).bind ofMessage?) Encodable := by
  have decodes (value : α) (admissible : (toMessage value).Admissible schema) :
      (Message.decode? schema (toMessage value).encode).bind ofMessage? = some value := by
    rw [Message.decode?_encode legible admissible]
    exact viewed value
  have admissible (line : String) (value : α)
      (decoded : (Message.decode? schema line).bind ofMessage? = some value) :
      (toMessage value).Admissible schema := by
    obtain ⟨message, read, view⟩ := Option.bind_eq_some_iff.mp decoded
    rw [unviewed message value view]
    exact Message.admissible_of_decode? legible read
  constructor
  · intro value
    rw [← encodable value]
    exact ⟨admissible _ value, decodes value⟩
  · intro line value decoded
    exact decodes value (admissible line value decoded)
  · intro left right ⟨leftLine, leftDecoded⟩ ⟨rightLine, rightDecoded⟩ same
    apply Option.some.inj
    rw [← decodes left (admissible leftLine left leftDecoded),
      ← decodes right (admissible rightLine right rightDecoded), same]

end Views

/-! ## The protocols -/

namespace Datagram

theorem toMessage_of_ofMessage? (message : Message) (datagram : Datagram)
    (view : ofMessage? message = some datagram) : datagram.toMessage = message := by
  unfold ofMessage? at view
  split at view
  · obtain rfl := Option.some.inj view
    rfl
  · obtain rfl := Option.some.inj view
    rfl
  · obtain rfl := Option.some.inj view
    rfl
  · cases view

end Datagram

namespace NodeRequest

theorem toMessage_of_ofMessage? (message : Message) (request : NodeRequest)
    (view : ofMessage? message = some request) : request.toMessage = message := by
  unfold ofMessage? at view
  split at view
  case h_6 => cases view
  all_goals
    obtain rfl := Option.some.inj view
    rfl

end NodeRequest

namespace Vote

theorem toMessage_of_ofMessage? (message : Message) (vote : Vote)
    (view : ofMessage? message = some vote) : vote.toMessage = message := by
  unfold ofMessage? at view
  split at view
  case h_3 => cases view
  all_goals
    obtain rfl := Option.some.inj view
    rfl

end Vote

/-- The encodings of all three protocols are canonical. Requests and votes are all read
back, and datagrams are if the operators that they name are written: at least one, and
none twice. -/
theorem encodings_are_canonical :
    Canonical Datagram.encode Datagram.decode?
        (fun datagram => ∀ set ∈ datagram.operators?, set.Written) ∧
      Canonical NodeRequest.encode NodeRequest.decode? (fun _ => True) ∧
      Canonical Vote.encode Vote.decode? (fun _ => True) := by
  refine ⟨?_, ?_, ?_⟩
  · exact canonical_of_view Datagram.legible_schema Datagram.ofMessage?_toMessage
      Datagram.toMessage_of_ofMessage? Datagram.admissible_iff
  · exact canonical_of_view NodeRequest.legible_schema NodeRequest.ofMessage?_toMessage
      NodeRequest.toMessage_of_ofMessage? fun request => iff_of_true request.admissible trivial
  · exact canonical_of_view Vote.legible_schema Vote.ofMessage?_toMessage
      Vote.toMessage_of_ofMessage? fun vote => iff_of_true vote.admissible trivial

end ArithmeticCloud.Wire
