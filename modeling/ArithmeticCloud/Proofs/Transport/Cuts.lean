import ArithmeticCloud.Proofs.Transport.Lines
import Mathlib.Data.List.Forall2

/-!
Contract: what is received from a stream that its sender closes at any byte.

Owns:
- the bytes that carry messages, as sending writes them;
- repeated receiving, which returns the messages of the stream and then its end;
- the messages of a stream that is cut off: the messages in front of the cut, and
  behind them the bytes that are left of the message that the cut lies in. These are
  received like a message, so a cut inside of a message is not noticed.

Does not own: what the messages mean.
-/

namespace ArithmeticCloud.Transport

/-! ## Sending -/

/-- The bytes that carry messages. -/
def framed (sent : List Bytes) : Bytes := sent.flatMap (· ++ [lineFeed])

theorem framed_cons (message : Bytes) (others : List Bytes) :
    framed (message :: others) = message ++ lineFeed :: framed others := by
  simp only [framed, List.flatMap_cons, List.append_assoc, List.singleton_append]

theorem framed_append (earlier later : List Bytes) :
    framed (earlier ++ later) = framed earlier ++ framed later :=
  List.flatMap_append

def Channel.sendAll (channel : Channel) (sent : List Bytes) : Channel :=
  sent.foldl (fun channel message => (channel.send message).2) channel

theorem frame?_of_unbroken {message : Bytes} (unbroken : lineFeed ∉ message) :
    frame? message = some (message ++ [lineFeed]) := by
  rw [frame?, if_neg]
  rwa [List.contains_iff_mem]

theorem send_of_unbroken {message : Bytes} (unbroken : lineFeed ∉ message) {channel : Channel}
    (isOpen : channel.outgoingOpen = true) :
    channel.send message = (.ok (), channel.write message (message ++ [lineFeed])) := by
  simp only [Channel.send, frame?_of_unbroken unbroken, if_pos isOpen]

theorem outgoing_sendAll {sent : List Bytes} (unbroken : ∀ message ∈ sent, lineFeed ∉ message)
    {channel : Channel} (isOpen : channel.outgoingOpen = true) :
    (channel.sendAll sent).outgoing = channel.outgoing ++ framed sent := by
  induction sent generalizing channel with
  | nil => exact (List.append_nil _).symm
  | cons message others inductionHypothesis =>
      rcases List.forall_mem_cons.mp unbroken with ⟨first, rest⟩
      have written := send_of_unbroken first isOpen
      have stillOpen : (channel.send message).2.outgoingOpen = true := by
        rw [written]
        exact isOpen
      have later := inductionHypothesis rest stillOpen
      rw [written] at later
      rw [Channel.sendAll, List.foldl_cons, written]
      refine later.trans ?_
      simp only [Channel.outgoing_write, framed_cons, List.append_assoc, List.singleton_append]

/-! ## Receiving -/

section Receiving

variable {stream content rest : Bytes}

theorem messages_of_message (received : receive true stream = .message content rest) :
    messages stream = content :: messages rest := by
  rw [messages, receiveAll]
  split
  · next found =>
      rw [received] at found
      cases found
      rfl
  all_goals
    next found =>
      rw [received] at found
      cases found

theorem messages_of_ended (ended : receive true stream = .ended) : messages stream = [] := by
  rw [messages, receiveAll]
  split
  · next found =>
      rw [ended] at found
      cases found
  · rfl
  · rfl

theorem receive_ne_waiting (stream : Bytes) : receive true stream ≠ .waiting := by
  unfold receive
  dsimp only
  split
  · nofun
  · rw [if_pos rfl]
    split <;> nofun

/-- At the end of a stream, bytes without a terminator are a message. -/
theorem messages_of_unterminated {part : Bytes} (unbroken : lineFeed ∉ part) :
    messages part = if part = [] then [] else [part] := by
  have ended : messages [] = [] := messages_of_ended rfl
  by_cases empty : part = []
  · rw [if_pos empty, empty, ended]
  · have received : receive true part = .message part [] := by
      rw [receive_of_unterminated unbroken, if_pos rfl, if_neg (mt List.isEmpty_iff.mp empty)]
    rw [if_neg empty, messages_of_message received, ended]

theorem messages_framed_append {whole : List Bytes}
    (unbroken : ∀ message ∈ whole, lineFeed ∉ message) (tail : Bytes) :
    messages (framed whole ++ tail) = whole.map dropReturn ++ messages tail := by
  induction whole with
  | nil => rfl
  | cons message others inductionHypothesis =>
      rcases List.forall_mem_cons.mp unbroken with ⟨first, later⟩
      have received : receive true (framed (message :: others) ++ tail) =
          .message (dropReturn message) (framed others ++ tail) := by
        rw [framed_cons, List.append_assoc, List.cons_append, receive_append first]
      rw [messages_of_message received, inductionHypothesis later]
      rfl

/-- What a number of calls in a row return. -/
def Channel.receipts : Nat → Channel → List (Receipt Bytes)
  | 0, _ => []
  | count + 1, channel => channel.receive.1 :: receipts count channel.receive.2

/-- Receiving again and again returns the messages of a closed stream, and then its
end for ever. -/
theorem receipts_eq_take (count : Nat) {channel : Channel}
    (closed : channel.incomingClosed = true) :
    channel.receipts count =
      ((messages channel.incoming).map Receipt.message ++
        List.replicate count Receipt.ended).take count := by
  induction count generalizing channel with
  | zero => rfl
  | succ count inductionHypothesis =>
      cases arrival : receive true channel.incoming with
      | message content rest =>
          have received : channel.receive = (.message content, channel.take content rest) := by
            simp only [Channel.receive, closed, arrival]
          have stillClosed : channel.receive.2.incomingClosed = true := by
            rw [received]
            exact closed
          rw [Channel.receipts, inductionHypothesis stillClosed, received, Channel.incoming_take,
            messages_of_message arrival, List.map_cons, List.cons_append, List.take_succ_cons]
          congr 1
          simp only [List.take_append, List.take_replicate]
          congr 2
          omega
      | ended =>
          have received : channel.receive = (.ended, channel) := by
            simp only [Channel.receive, closed, arrival]
          rw [Channel.receipts, received, inductionHypothesis closed, messages_of_ended arrival]
          simp [List.replicate_succ]
      | waiting => exact absurd arrival (receive_ne_waiting _)

end Receiving

/-! ## Cutting a stream off -/

/-- The stream of some messages ends inside of one of them: some of its bytes are
left and some are missing, a carriage return at its end aside. -/
def CutsInside (sent : List Bytes) (cut : Nat) : Prop :=
  ∃ whole next rest kept, sent = whole ++ next :: rest ∧
    cut = (framed whole).length + kept ∧ 0 < kept ∧ kept < (dropReturn next).length

/-- A message arrives as it was sent, or without a carriage return at its end. -/
def Carries (message received : Bytes) : Prop :=
  received = message ∨ received = dropReturn message

/-- What was received is the messages that were sent, up to one of them. -/
def Delivers (sent received : List Bytes) : Prop :=
  ∃ whole, whole <+: sent ∧ List.Forall₂ Carries whole received

theorem length_dropReturn_le (message : Bytes) : (dropReturn message).length ≤ message.length := by
  unfold dropReturn
  split
  · rw [List.length_dropLast]
    omega
  · exact Nat.le_refl _

theorem take_length_dropReturn (message : Bytes) :
    message.take (dropReturn message).length = dropReturn message := by
  unfold dropReturn
  split
  · rw [List.length_dropLast, List.dropLast_eq_take]
  · exact List.take_length

/-- Every message has at most the carriage return behind what framing keeps of it. -/
theorem length_le_length_dropReturn (message : Bytes) :
    message.length ≤ (dropReturn message).length + 1 := by
  unfold dropReturn
  split
  · rw [List.length_dropLast]
    omega
  · omega

theorem carries_take {message : Bytes} {kept : Nat}
    (enough : (dropReturn message).length ≤ kept) : Carries message (message.take kept) := by
  have short := length_le_length_dropReturn message
  rcases Nat.lt_or_ge kept message.length with inside | beyond
  · have exact : kept = (dropReturn message).length := by omega
    exact .inr (by rw [exact, take_length_dropReturn])
  · exact .inl (List.take_of_length_le beyond)

theorem forall₂_carries (whole : List Bytes) :
    List.Forall₂ Carries whole (whole.map dropReturn) := by
  rw [List.forall₂_map_right_iff]
  exact List.forall₂_same.mpr fun message _ => .inr rfl

section Cutting

variable {whole rest : List Bytes} {next : Bytes} {kept : Nat}

theorem take_framed (fits : kept ≤ next.length) :
    (framed (whole ++ next :: rest)).take ((framed whole).length + kept) =
      framed whole ++ next.take kept := by
  rw [framed_append, framed_cons, List.take_length_add_append, List.take_append_of_le_length fits]

/-- A cut leaves everything, or it lies in a message or right behind one. -/
theorem cut_cases (sent : List Bytes) (cut : Nat) :
    (framed sent).length ≤ cut ∨
      ∃ whole next rest kept, sent = whole ++ next :: rest ∧
        cut = (framed whole).length + kept ∧ kept ≤ next.length := by
  induction sent generalizing cut with
  | nil => exact .inl (Nat.zero_le cut)
  | cons message others inductionHypothesis =>
      have size : (framed (message :: others)).length =
          message.length + 1 + (framed others).length := by
        rw [framed_cons, List.length_append, List.length_cons]
        omega
      rcases Nat.lt_or_ge message.length cut with behind | inside
      · rcases inductionHypothesis (cut - (message.length + 1)) with
          everything | ⟨whole, next, rest, kept, rfl, position, fits⟩
        · exact .inl (by omega)
        · refine .inr ⟨message :: whole, next, rest, kept, rfl, ?_, fits⟩
          rw [framed_cons, List.length_append, List.length_cons]
          omega
      · exact .inr ⟨[], message, others, cut, rfl, (Nat.zero_add cut).symm, inside⟩

variable (unbroken : ∀ message ∈ whole ++ next :: rest, lineFeed ∉ message)
include unbroken

theorem messages_take (fits : kept ≤ next.length) :
    messages ((framed (whole ++ next :: rest)).take ((framed whole).length + kept)) =
      whole.map dropReturn ++ if next.take kept = [] then [] else [next.take kept] := by
  have before : ∀ message ∈ whole, lineFeed ∉ message := fun message member =>
    unbroken message (List.mem_append_left _ member)
  have inside : lineFeed ∉ next.take kept := fun member =>
    unbroken next (List.mem_append_right whole List.mem_cons_self) (List.mem_of_mem_take member)
  rw [take_framed fits, messages_framed_append before, messages_of_unterminated inside]

/-- What is left of a message that the stream is cut in arrives as a message. -/
theorem messages_of_cut (begun : 0 < kept) (missing : kept < (dropReturn next).length) :
    messages ((framed (whole ++ next :: rest)).take ((framed whole).length + kept)) =
      whole.map dropReturn ++ [next.take kept] := by
  have fits := length_dropReturn_le next
  have nonempty : next.take kept ≠ [] := by
    rw [← List.length_pos_iff, List.length_take]
    omega
  rw [messages_take unbroken (by omega), if_neg nonempty]

theorem not_delivers_of_cut (begun : 0 < kept) (missing : kept < (dropReturn next).length) :
    ¬ Delivers (whole ++ next :: rest)
      (messages ((framed (whole ++ next :: rest)).take ((framed whole).length + kept))) := by
  rw [messages_of_cut unbroken begun missing]
  rintro ⟨front, ⟨back, same⟩, carries⟩
  have size : front.length = (whole ++ [next]).length := by
    rw [carries.length_eq, List.length_append, List.length_map, List.length_append]
    rfl
  rw [List.append_cons] at same
  obtain ⟨rfl, -⟩ := List.append_inj same size
  have last := List.forall₂_drop_append _ _ _ carries
  rw [List.length_map, List.drop_left] at last
  have short := length_dropReturn_le next
  have left : (next.take kept).length = kept := by
    rw [List.length_take]
    omega
  rcases (List.forall₂_cons.mp last).1 with same | same
  all_goals
    rw [same] at left
    omega

omit unbroken in
/-- Exactly a cut inside of a message keeps the messages from arriving as they were
sent, up to one of them. -/
theorem delivers_iff {sent : List Bytes} (unbroken : ∀ message ∈ sent, lineFeed ∉ message)
    (cut : Nat) :
    Delivers sent (messages ((framed sent).take cut)) ↔ ¬ CutsInside sent cut := by
  constructor
  · rintro delivers ⟨whole, next, rest, kept, rfl, rfl, begun, missing⟩
    exact not_delivers_of_cut unbroken begun missing delivers
  · intro notInside
    rcases cut_cases sent cut with everything | ⟨whole, next, rest, kept, rfl, rfl, fits⟩
    · have all : messages (framed sent) = sent.map dropReturn := by
        have nothing : messages [] = [] := messages_of_ended rfl
        rw [← List.append_nil (framed sent), messages_framed_append unbroken, nothing,
          List.append_nil]
      rw [List.take_of_length_le everything, all]
      exact ⟨sent, List.prefix_rfl, forall₂_carries sent⟩
    · rw [messages_take unbroken fits]
      split
      · rw [List.append_nil]
        exact ⟨whole, List.prefix_append _ _, forall₂_carries whole⟩
      · next nonempty =>
          have begun : 0 < kept := by
            refine Nat.pos_of_ne_zero fun zero => nonempty ?_
            rw [zero, List.take_zero]
          have enough : (dropReturn next).length ≤ kept := by
            refine Nat.le_of_not_lt fun missing => notInside ?_
            exact ⟨whole, next, rest, kept, rfl, rfl, begun, missing⟩
          refine ⟨whole ++ [next], ⟨rest, by rw [List.append_assoc]; rfl⟩, ?_⟩
          exact List.rel_append (forall₂_carries whole) (.cons (carries_take enough) .nil)

end Cutting

/-- What arrives of some messages when the sender's side closes after so many bytes. -/
def cutOff (sent : List Bytes) (cut : Nat) : Bytes :=
  (Channel.fresh.sendAll sent).outgoing.take cut

theorem cutOff_eq {sent : List Bytes} (unbroken : ∀ message ∈ sent, lineFeed ∉ message)
    (cut : Nat) : cutOff sent cut = (framed sent).take cut := by
  rw [cutOff, outgoing_sendAll unbroken rfl]
  rfl

end ArithmeticCloud.Transport
