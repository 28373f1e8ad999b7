import ArithmeticCloud.Fleet.Logs
import ArithmeticCloud.Proofs.Transport.Cuts
import ArithmeticCloud.Service.NodeLink

/-!
Contract: values and records read from a node whose connection closes at any byte.

Owns:
- the answer to a sub-operation and the records of a history in terms of the
  messages received;
- where they come from when the stream is cut off: from messages sent in full,
  unless the cut is inside of a message. What is left of that message is then read
  in its place, and a number that has lost its last digits is a number.

Does not own: connections that break in another way than by closing.
-/

namespace ArithmeticCloud.Service

open Fleet Network Node Transport

/-- A message that arrives whole is read as this. -/
def ReadsAs {α : Type} (read? : String → Option α) (message : Bytes) (answer : α) : Prop :=
  ∃ received line, Carries message received ∧ text? received = some line ∧
    read? line = some answer

/-! ## Answers and records in terms of messages -/

theorem exists_message_of_receiveText {stream : Bytes} {line : String}
    (received : (Channel.ofStream stream).receiveText.1 = .message line) :
    ∃ message others, messages stream = message :: others ∧ text? message = some line := by
  cases arrival : receive true stream with
  | message content rest =>
      refine ⟨content, messages rest, messages_of_message arrival, ?_⟩
      simp only [Channel.receiveText, Channel.receive, Channel.ofStream, arrival] at received
      split at received
      · next text =>
          cases received
          exact text
      · cases received
  | ended =>
      simp only [Channel.receiveText, Channel.receive, Channel.ofStream, arrival] at received
      cases received
  | waiting => exact absurd arrival (receive_ne_waiting stream)

/-- An answer is read from the first message. -/
theorem exists_message_of_readAnswer {α : Type} {kind sender : String} {read? : String → Option α}
    {stream : Bytes} {answer : α} (read : readAnswer kind sender read? stream = .ok answer) :
    ∃ message others line, messages stream = message :: others ∧
      text? message = some line ∧ read? line = some answer := by
  unfold readAnswer at read
  split at read
  · next line received =>
      rcases exists_message_of_receiveText received with ⟨message, others, first, text⟩
      split at read
      · next parsed =>
          cases read
          exact ⟨message, others, line, first, text, parsed⟩
      · cases read
  · cases read
  · cases read
  · cases read

/-- The reading of one line of a history. -/
def readRecord? (line : String) : Option ComputeRecord := ComputeRecord.parse? line.toList

/-- Records are read from the messages one by one. -/
theorem readRecords_forall₂ {received : List Bytes} {records : List ComputeRecord}
    (read : readRecords received = .ok records) :
    List.Forall₂ (fun message record => ∃ line, text? message = some line ∧
      readRecord? line = some record) received records := by
  induction received generalizing records with
  | nil =>
      cases read
      exact .nil
  | cons message others inductionHypothesis =>
      rw [readRecords] at read
      split at read
      · cases read
      · next line text =>
          split at read
          · cases read
          · next record parsed =>
              cases rest : readRecords others with
              | error fault =>
                  rw [rest] at read
                  cases read
              | ok later =>
                  rw [rest] at read
                  cases read
                  exact .cons ⟨line, text, parsed⟩ (inductionHypothesis rest)

/-! ## Streams that are cut off -/

section Cut

variable {sent : List Bytes} {cut : Nat} (delivers : Delivers sent (messages (cutOff sent cut)))
include delivers

/-- An answer comes from the first message, sent in full. -/
theorem readsAs_of_readReply {name : String} {reply : Reply}
    (read : readReply name (cutOff sent cut) = .ok reply) :
    ∃ first, sent.head? = some first ∧
      ReadsAs (fun line => Reply.parse? line.toList) first reply := by
  rcases exists_message_of_readAnswer read with ⟨message, others, line, received, text, parsed⟩
  rcases delivers with ⟨whole, ⟨rest, rfl⟩, carries⟩
  rw [received] at carries
  rcases List.forall₂_cons_right_iff.mp carries with ⟨first, later, carried, -, rfl⟩
  exact ⟨first, rfl, message, line, carried, text, parsed⟩

/-- Records come from messages sent in full. -/
theorem readsAs_of_fetchRecords {records : List ComputeRecord}
    (read : fetchRecords (cutOff sent cut) = .ok records) :
    ∃ whole, whole <+: sent ∧ List.Forall₂ (ReadsAs readRecord?) whole records := by
  rcases delivers with ⟨whole, front, carries⟩
  refine ⟨whole, front, ?_⟩
  have readEach := readRecords_forall₂ read
  clear read front
  generalize messages (cutOff sent cut) = received at carries readEach
  induction carries generalizing records with
  | nil =>
      cases readEach
      exact .nil
  | cons carried _ inductionHypothesis =>
      cases readEach with
      | cons first rest =>
          rcases first with ⟨line, text, parsed⟩
          exact .cons ⟨_, line, carried, text, parsed⟩ (inductionHypothesis rest)

end Cut

/-- What is received and read from a node that closes its connection after so many
bytes of its messages. -/
theorem cutOff_delivers {sent : List Bytes} (unbroken : ∀ message ∈ sent, lineFeed ∉ message)
    (cut : Nat) :
    (∀ count, (Channel.ofStream (cutOff sent cut)).receipts count =
      ((messages (cutOff sent cut)).map Receipt.message ++
        List.replicate count Receipt.ended).take count) ∧
    (Delivers sent (messages (cutOff sent cut)) ↔ ¬ CutsInside sent cut) ∧
    (¬ CutsInside sent cut →
      (∀ nodes node, Nodes.get nodes node = .answering (cutOff sent cut) →
        ∀ now left operator right reply,
          ((Link.overConnections now).compute nodes node left operator right).1 = .ok reply →
            ∃ first, sent.head? = some first ∧
              ReadsAs (fun line => Reply.parse? line.toList) first reply) ∧
      ∀ records, fetchRecords (cutOff sent cut) = .ok records →
        ∃ whole, whole <+: sent ∧ List.Forall₂ (ReadsAs readRecord?) whole records) ∧
    ∀ whole next rest kept, sent = whole ++ next :: rest →
      cut = (framed whole).length + kept → 0 < kept → kept < (dropReturn next).length →
        messages (cutOff sent cut) = whole.map dropReturn ++ [next.take kept] := by
  have delivers := delivers_iff unbroken cut
  rw [← cutOff_eq unbroken] at delivers
  refine ⟨fun count => receipts_eq_take count rfl, delivers, fun notInside => ⟨?_, ?_⟩, ?_⟩
  · intro nodes node answers now left operator right reply computed
    have read : readReply (String.ofList node.text) (cutOff sent cut) = .ok reply := by
      simpa only [Link.overConnections, Nodes.ask, answers, Remote.ask] using computed
    exact readsAs_of_readReply (delivers.mpr notInside) read
  · intro records fetched
    exact readsAs_of_fetchRecords (delivers.mpr notInside) fetched
  · rintro whole next rest kept rfl rfl begun missing
    rw [cutOff_eq unbroken]
    exact messages_of_cut unbroken begun missing

/-- Two answers on one stream, of which the second loses its last digit. -/
theorem cutOff_delivers_twoAnswers :
    (∀ message ∈ [bytesOf "7", bytesOf "123"], lineFeed ∉ message) ∧
    messages (cutOff [bytesOf "7", bytesOf "123"] 4) = [bytesOf "7", bytesOf "12"] := by
  have unbroken : ∀ message ∈ [bytesOf "7", bytesOf "123"], lineFeed ∉ message := by
    decide +kernel
  refine ⟨unbroken, ?_⟩
  have received := (cutOff_delivers unbroken 4).2.2.2 [bytesOf "7"] (bytesOf "123") [] 2 rfl
    (by decide +kernel) (by decide) (by decide +kernel)
  exact received.trans (by decide +kernel)

/-- A number that has lost a digit is received, and a value is read from it. -/
theorem cutOff_number :
    ¬ Delivers [bytesOf "7", bytesOf "123"]
      (messages (cutOff [bytesOf "7", bytesOf "123"] 4)) ∧
    readReply "node" (cutOff [bytesOf "123"] 2) = .ok (.value 12) := by
  have unbroken : ∀ message ∈ [bytesOf "7", bytesOf "123"], lineFeed ∉ message := by
    decide +kernel
  constructor
  · rw [cutOff_eq unbroken, delivers_iff unbroken, Classical.not_not]
    exact ⟨[bytesOf "7"], bytesOf "123", [], 2, rfl, by decide +kernel, by decide,
      by decide +kernel⟩
  · have arrival : receive true (cutOff [bytesOf "123"] 2) = .message (bytesOf "12") [] := by
      decide +kernel
    have parsed : Reply.parse? "12".toList = some (.value 12) := by
      decide +kernel
    simp only [readReply, readAnswer, Channel.receiveText, Channel.receive, Channel.ofStream,
      arrival, text?_bytesOf, parsed]

end ArithmeticCloud.Service
