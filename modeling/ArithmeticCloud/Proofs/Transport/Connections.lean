import ArithmeticCloud.Proofs.Transport.Cuts
import Mathlib.Algebra.GroupWithZero.Nat

/-!
Contract: what two ends of a byte stream tell each other, and what each of them counts.

Owns:
- one end and everything that can happen to it, `Channel.step?`, and the record of a run;
- the counters, which hold the lengths of the messages that were accepted and returned, whatever
  arrives: modulo 2^64 in every run, and exactly as long as the sums fit;
- `Reads`: the bytes that have arrived are the lines that were returned and what is left, in
  whatever pieces they came;
- two ends, one of which reads what the other has written.

Does not own: what messages mean.
-/

namespace ArithmeticCloud.Transport

/-! ## One end -/

/-- What happens at one end of a stream: calls, and what the other end does. -/
inductive Action where
  | send (message : Bytes)
  | sendText (text : String)
  | receive
  | receiveText
  /-- Some bytes arrive, as many as it happens. -/
  | arrive (bytes : Bytes)
  /-- The other end has shut its sending half, and all of its bytes have arrived. -/
  | endArrives
  /-- The other end is gone, and what it has not read is lost. -/
  | close
  /-- The other end reads what was written. -/
  | drain
deriving DecidableEq, Repr

inductive Outcome where
  | sent (message : Bytes) (result : Except Fault Unit)
  | received (receipt : Receipt Bytes)
  /-- A message was taken off the stream and read as a text. -/
  | receivedText (taken : Receipt Bytes) (receipt : Receipt String)
  | arrived (bytes : Bytes)
  | drained (bytes : Bytes)
  | closed
deriving Repr

namespace Outcome

/-- The message that was accepted. -/
def accepted : Outcome → List Bytes
  | .sent message (.ok ()) => [message]
  | _ => []

/-- The message that receiving returned, also if it was no text. -/
def returned : Outcome → List Bytes
  | .received (.message content) | .receivedText (.message content) _ => [content]
  | _ => []

/-- A message is returned before it is read as a text. -/
theorem returned_receivedText (taken : Receipt Bytes) (receipt : Receipt String) :
    (Outcome.receivedText taken receipt).returned = (Outcome.received taken).returned := by
  cases taken <;> rfl

def arrivedBytes : Outcome → Bytes
  | .arrived bytes => bytes
  | _ => []

def drainedBytes : Outcome → Bytes
  | .drained bytes => bytes
  | _ => []

end Outcome

section Records

variable (record : List Outcome)

def accepted : List Bytes := record.flatMap Outcome.accepted

def returned : List Bytes := record.flatMap Outcome.returned

/-- All bytes that have arrived. -/
def arrived : Bytes := record.flatMap Outcome.arrivedBytes

/-- All bytes that the other end has read. -/
def drained : Bytes := record.flatMap Outcome.drainedBytes

/-- The length of messages, without terminators. -/
def volume (messages : List Bytes) : Nat := (messages.map List.length).sum

theorem volume_concat (messages : List Bytes) (message : Bytes) :
    volume (messages ++ [message]) = volume messages + message.length := by
  simp only [volume, List.map_append, List.map_singleton, List.sum_append, List.sum_singleton]

/-- The counter holds the length of the messages, modulo 2^64. -/
def Counts (counter : UInt64) (messages : List Bytes) : Prop :=
  counter = UInt64.ofNat (volume messages)

theorem Counts.concat {counter : UInt64} {messages : List Bytes} (counts : Counts counter messages)
    (message : Bytes) :
    Counts (counter + UInt64.ofNat message.length) (messages ++ [message]) := by
  rw [Counts, volume_concat, UInt64.ofNat_add, counts]

/-- A counter that has not wrapped is the length of the messages. -/
theorem Counts.toNat_eq {counter : UInt64} {messages : List Bytes}
    (counts : Counts counter messages) (fits : volume messages < 2 ^ 64) :
    counter.toNat = volume messages := by
  rw [counts]
  exact UInt64.toNat_ofNat_of_lt' fits

end Records

namespace Channel

/-- What a message that was received is as a text. -/
def asText : Receipt Bytes → Receipt String
  | .message content =>
      match text? content with
      | some text => .message text
      | none => .failed invalidText
  | .ended => .ended
  | .waiting => .waiting
  | .failed fault => .failed fault

theorem receiveText_eq (channel : Channel) :
    channel.receiveText = (asText channel.receive.1, channel.receive.2) := by
  unfold receiveText
  generalize channel.receive = outcome
  obtain ⟨receipt, after⟩ := outcome
  cases receipt with
  | message content =>
      simp only [asText]
      cases text? content with
      | none => rfl
      | some text => rfl
  | ended => rfl
  | waiting => rfl
  | failed fault => rfl

/-- The end after an action, and its outcome. Nothing arrives behind the end of the stream. -/
def step? (channel : Channel) : Action → Option (Channel × Outcome)
  | .send message => some ((channel.send message).2, .sent message (channel.send message).1)
  | .sendText text =>
      some ((channel.sendText text).2, .sent (bytesOf text) (channel.sendText text).1)
  | .receive => some (channel.receive.2, .received channel.receive.1)
  | .receiveText =>
      some (channel.receiveText.2, .receivedText channel.receive.1 channel.receiveText.1)
  | .arrive bytes =>
      if channel.incomingClosed then none else some (channel.arrive bytes, .arrived bytes)
  | .endArrives => some (channel.closeIncoming, .closed)
  | .close => some (channel.close, .closed)
  | .drain => some (channel.drain.2, .drained channel.drain.1)

/-- Takes actions in turn. Fails at one that cannot happen. -/
def run? : Channel → List Action → Option (Channel × List Outcome)
  | channel, [] => some (channel, [])
  | channel, action :: others => do
      let (channel, outcome) ← channel.step? action
      let (channel, later) ← run? channel others
      return (channel, outcome :: later)

theorem run?_cons {channel after : Channel} {action : Action} {others : List Action}
    {record : List Outcome} (ran : channel.run? (action :: others) = some (after, record)) :
    ∃ middle outcome later, channel.step? action = some (middle, outcome) ∧
      middle.run? others = some (after, later) ∧ record = outcome :: later := by
  simp only [run?, Option.bind_eq_bind, Option.bind_eq_some_iff, Option.pure_def,
    Option.some.injEq, Prod.mk.injEq] at ran
  rcases ran with ⟨⟨middle, outcome⟩, stepped, ⟨last, later⟩, rest, rfl, rfl⟩
  exact ⟨middle, outcome, later, stepped, rest, rfl⟩

end Channel

/-! ## Calls -/

/-- A message is taken off at its line feed. Bytes without one are a message only at the end of
the stream. -/
inductive Takes (closed : Bool) : Bytes → Arrival → Prop where
  | line {message : Bytes} (unbroken : lineFeed ∉ message) (rest : Bytes) :
      Takes closed (message ++ lineFeed :: rest) (.message (dropReturn message) rest)
  | remainder {part : Bytes} (unbroken : lineFeed ∉ part) (nonempty : part ≠ [])
      (isClosed : closed = true) : Takes closed part (.message part [])
  | ended (isClosed : closed = true) : Takes closed [] .ended
  | waiting {part : Bytes} (unbroken : lineFeed ∉ part) (isOpen : closed = false) :
      Takes closed part .waiting

theorem Takes.length_lt {closed : Bool} {incoming content rest : Bytes}
    (taken : Takes closed incoming (.message content rest)) : rest.length < incoming.length := by
  cases taken with
  | line unbroken rest =>
      rw [List.length_append, List.length_cons]
      omega
  | remainder unbroken nonempty => exact List.length_pos_iff.mpr nonempty

theorem Takes.ne_nil {closed : Bool} {incoming content rest : Bytes}
    (taken : Takes closed incoming (.message content rest)) : incoming ≠ [] :=
  List.ne_nil_of_length_pos (Nat.zero_lt_of_lt taken.length_lt)

/-- What is taken off first is the first message of the stream, whatever arrives later. -/
theorem Takes.messages_append {closed : Bool} {incoming content rest more : Bytes}
    (taken : Takes closed incoming (.message content rest)) (last : closed = true → more = []) :
    messages (incoming ++ more) = content :: messages (rest ++ more) := by
  cases taken with
  | @line message unbroken rest =>
      apply messages_of_message
      rw [List.append_assoc, List.cons_append, receive_append unbroken]
  | remainder unbroken nonempty isClosed =>
      have nothing : messages [] = [] := messages_of_ended rfl
      rw [last isClosed, List.append_nil, List.append_nil, messages_of_unterminated unbroken,
        if_neg nonempty, nothing]

theorem takes_receive (closed : Bool) (incoming : Bytes) :
    Takes closed incoming (receive closed incoming) := by
  by_cases broken : lineFeed ∈ incoming
  · obtain ⟨message, rest, rfl, unbroken⟩ := List.eq_append_cons_of_mem broken
    rw [receive_append unbroken]
    exact .line unbroken rest
  · rw [receive_of_unterminated broken]
    cases closed with
    | true =>
        cases incoming with
        | nil => exact .ended rfl
        | cons byte others => exact .remainder broken (List.cons_ne_nil byte others) rfl
    | false => exact .waiting broken rfl

namespace Channel

theorem send_of_broken {message : Bytes} (broken : lineFeed ∈ message) (channel : Channel) :
    channel.send message = (.error brokenLine, channel) := by
  have present : message.contains lineFeed = true := List.contains_iff_mem.mpr broken
  simp only [send, frame?, if_pos present]

theorem send_of_closed {message : Bytes} (unbroken : lineFeed ∉ message) {channel : Channel}
    (isClosed : channel.outgoingOpen = false) :
    channel.send message = (.error (.transport "broken pipe"), channel) := by
  simp only [send, frame?_of_unbroken unbroken, isClosed, Bool.false_eq_true, if_false]

/-- A send is refused and nothing happens, or its message is written and counted. -/
theorem send_cases (channel : Channel) (message : Bytes) :
    (∃ fault, channel.send message = (.error fault, channel)) ∨
      lineFeed ∉ message ∧ channel.outgoingOpen = true ∧
        channel.send message = (.ok (), channel.write message (message ++ [lineFeed])) := by
  by_cases broken : lineFeed ∈ message
  · exact .inl ⟨_, send_of_broken broken channel⟩
  · cases isOpen : channel.outgoingOpen with
    | false => exact .inl ⟨_, send_of_closed broken isOpen⟩
    | true => exact .inr ⟨broken, rfl, send_of_unbroken broken isOpen⟩

/-- A message is returned and counted, or nothing happens. -/
theorem receive_cases (channel : Channel) :
    (∃ content rest,
        Takes channel.incomingClosed channel.incoming (.message content rest) ∧
        channel.receive = (.message content, channel.take content rest)) ∨
      channel.receive = (.ended, channel) ∧ channel.incomingClosed = true ∧
        channel.incoming = [] ∨
      channel.receive = (.waiting, channel) ∧ channel.incomingClosed = false ∧
        lineFeed ∉ channel.incoming := by
  have taken := takes_receive channel.incomingClosed channel.incoming
  unfold receive
  generalize Transport.receive channel.incomingClosed channel.incoming = arrival at taken ⊢
  generalize channel.incoming = incoming at taken ⊢
  cases taken with
  | @line message unbroken rest =>
      exact .inl ⟨dropReturn message, rest, .line unbroken rest, rfl⟩
  | remainder unbroken nonempty isClosed =>
      exact .inl ⟨_, [], .remainder unbroken nonempty isClosed, rfl⟩
  | ended isClosed => exact .inr (.inl ⟨rfl, isClosed, rfl⟩)
  | waiting unbroken isOpen => exact .inr (.inr ⟨rfl, isOpen, unbroken⟩)

end Channel

/-! ## Runs -/

theorem flatMap_concat {α : Type} (give : Outcome → List α) (record : List Outcome)
    (outcome : Outcome) :
    (record ++ [outcome]).flatMap give = record.flatMap give ++ give outcome := by
  rw [List.flatMap_append, List.flatMap_singleton]

/-- The bytes that have arrived are the lines that were returned, and the bytes that are left. At
the end of the stream, bytes without a line feed may have been returned as well. -/
inductive Reads (closed : Bool) (arrived : Bytes) (returned : List Bytes) (left : Bytes) :
    Prop where
  | lines (lines : List Bytes) (unbroken : ∀ line ∈ lines, lineFeed ∉ line)
      (split : arrived = framed lines ++ left) (same : returned = lines.map dropReturn)
  | remainder (lines : List Bytes) (part : Bytes) (unbroken : ∀ line ∈ lines, lineFeed ∉ line)
      (partUnbroken : lineFeed ∉ part) (nonempty : part ≠ []) (isClosed : closed = true)
      (nothing : left = []) (split : arrived = framed lines ++ part)
      (same : returned = lines.map dropReturn ++ [part])

namespace Reads

variable {closed : Bool} {arrived : Bytes} {returned : List Bytes} {left : Bytes}

theorem arrive (reads : Reads false arrived returned left) (bytes : Bytes) :
    Reads false (arrived ++ bytes) returned (left ++ bytes) := by
  cases reads with
  | lines lines unbroken split same =>
      refine .lines lines unbroken ?_ same
      rw [split, List.append_assoc]
  | remainder lines part unbroken partUnbroken nonempty isClosed => cases isClosed

theorem close (reads : Reads closed arrived returned left) : Reads true arrived returned left := by
  cases reads with
  | lines lines unbroken split same => exact .lines lines unbroken split same
  | remainder lines part unbroken partUnbroken nonempty isClosed nothing split same =>
      exact .remainder lines part unbroken partUnbroken nonempty rfl nothing split same

theorem take (reads : Reads closed arrived returned left) {content rest : Bytes}
    (taken : Takes closed left (.message content rest)) :
    Reads closed arrived (returned ++ [content]) rest := by
  cases reads with
  | lines lines unbroken split same =>
      cases taken with
      | @line message messageUnbroken rest =>
          refine .lines (lines ++ [message]) ?_ ?_ ?_
          · intro line member
            rcases List.mem_append.mp member with earlier | last
            · exact unbroken line earlier
            · rwa [List.mem_singleton.mp last]
          · rw [split, framed_append, framed_cons, List.append_assoc, List.append_assoc]
            rfl
          · rw [same, List.map_append]
            rfl
      | remainder leftUnbroken nonempty isClosed =>
          refine .remainder lines left unbroken leftUnbroken nonempty isClosed rfl split ?_
          rw [same]
  | remainder lines part unbroken partUnbroken nonempty isClosed nothing split same =>
      exact absurd nothing taken.ne_nil

end Reads

/-- What was read from an end, and what has not been read yet, carries the messages that were
accepted. -/
structure Channel.Writes (channel : Channel) (accepted : List Bytes) (drained : Bytes) : Prop where
  sent : Counts channel.sent accepted
  unbroken : ∀ message ∈ accepted, lineFeed ∉ message
  front : drained <+: framed accepted
  whole : channel.outgoingOpen = true → drained ++ channel.outgoing = framed accepted
  lost : channel.outgoingOpen = false → channel.outgoing = []

/-- What has arrived at an end was returned or is left. -/
structure Channel.Receives (channel : Channel) (arrived : Bytes) (returned : List Bytes) :
    Prop where
  received : Counts channel.received returned
  reads : Reads channel.incomingClosed arrived returned channel.incoming

namespace Channel

variable {channel : Channel} {acceptedSoFar returnedSoFar : List Bytes}
  {drainedSoFar arrivedSoFar : Bytes}

theorem Writes.send (writes : channel.Writes acceptedSoFar drainedSoFar) (message : Bytes) :
    (channel.send message).2.Writes
      (acceptedSoFar ++ (Outcome.sent message (channel.send message).1).accepted) drainedSoFar := by
  rcases channel.send_cases message with ⟨fault, refused⟩ | ⟨unbroken, isOpen, sent⟩
  · rw [refused]
    exact (List.append_nil acceptedSoFar).symm ▸ writes
  · rw [sent]
    have before := writes.whole isOpen
    have framedAll : framed (acceptedSoFar ++ [message]) =
        drainedSoFar ++ (channel.outgoing ++ (message ++ [lineFeed])) := by
      rw [framed_append, ← before, List.append_assoc]
      simp only [framed, List.flatMap_cons, List.flatMap_nil, List.append_nil]
    constructor
    · exact writes.sent.concat message
    · intro line member
      rcases List.mem_append.mp member with earlier | last
      · exact writes.unbroken line earlier
      · rwa [List.mem_singleton.mp last]
    · exact framedAll ▸ List.prefix_append _ _
    · exact fun _ => framedAll.symm
    · intro isClosed
      cases isOpen.symm.trans isClosed

theorem Writes.drain (writes : channel.Writes acceptedSoFar drainedSoFar) :
    channel.drain.2.Writes acceptedSoFar (drainedSoFar ++ channel.drain.1) where
  sent := writes.sent
  unbroken := writes.unbroken
  front := by
    show drainedSoFar ++ channel.outgoing <+: framed acceptedSoFar
    cases isOpen : channel.outgoingOpen with
    | true => exact writes.whole isOpen ▸ List.prefix_rfl
    | false =>
        rw [writes.lost isOpen, List.append_nil]
        exact writes.front
  whole := by
    intro isOpen
    show drainedSoFar ++ channel.outgoing ++ [] = framed acceptedSoFar
    rw [List.append_nil]
    exact writes.whole isOpen
  lost := fun _ => rfl

/-- Nothing is read from an end when the other one is gone. -/
theorem Writes.close (writes : channel.Writes acceptedSoFar drainedSoFar) :
    channel.close.Writes acceptedSoFar drainedSoFar where
  sent := writes.sent
  unbroken := writes.unbroken
  front := writes.front
  whole := nofun
  lost := fun _ => rfl

theorem Writes.receive (writes : channel.Writes acceptedSoFar drainedSoFar) :
    channel.receive.2.Writes acceptedSoFar drainedSoFar := by
  rcases channel.receive_cases with ⟨content, rest, -, received⟩ | ⟨received, -⟩ | ⟨received, -⟩
  · rw [received]
    exact ⟨writes.sent, writes.unbroken, writes.front, writes.whole, writes.lost⟩
  · rwa [received]
  · rwa [received]

theorem Receives.send (receives : channel.Receives arrivedSoFar returnedSoFar) (message : Bytes) :
    (channel.send message).2.Receives arrivedSoFar returnedSoFar := by
  rcases channel.send_cases message with ⟨fault, refused⟩ | ⟨-, -, sent⟩
  · rwa [refused]
  · rw [sent]
    exact ⟨receives.received, receives.reads⟩

theorem Receives.receive (receives : channel.Receives arrivedSoFar returnedSoFar) :
    channel.receive.2.Receives arrivedSoFar
      (returnedSoFar ++ (Outcome.received channel.receive.1).returned) := by
  have unchanged : returnedSoFar ++ [] = returnedSoFar := List.append_nil returnedSoFar
  rcases channel.receive_cases with ⟨content, rest, taken, received⟩ | ⟨received, -⟩ | ⟨received, -⟩
  · rw [received]
    constructor
    · exact receives.received.concat content
    · exact receives.reads.take taken
  · rw [received]
    exact unchanged.symm ▸ receives
  · rw [received]
    exact unchanged.symm ▸ receives

/-- The state of an end agrees with the record of what happened there. -/
structure Agrees (channel : Channel) (record : List Outcome) : Prop where
  writes : channel.Writes (accepted record) (drained record)
  receives : channel.Receives (arrived record) (returned record)

theorem fresh_agrees : fresh.Agrees [] where
  writes := ⟨rfl, List.forall_mem_nil _, List.nil_prefix, fun _ => rfl, nofun⟩
  receives := ⟨rfl, .lines [] (List.forall_mem_nil _) rfl rfl⟩

/-- The record of one more outcome. -/
theorem Agrees.concat {record : List Outcome} {outcome : Outcome}
    (writes : channel.Writes acceptedSoFar drainedSoFar)
    (receives : channel.Receives arrivedSoFar returnedSoFar)
    (accepts : accepted record ++ outcome.accepted = acceptedSoFar)
    (drains : drained record ++ outcome.drainedBytes = drainedSoFar)
    (arrives : arrived record ++ outcome.arrivedBytes = arrivedSoFar)
    (returns : returned record ++ outcome.returned = returnedSoFar) :
    channel.Agrees (record ++ [outcome]) := by
  subst accepts drains arrives returns
  constructor
  · rw [accepted, drained, flatMap_concat, flatMap_concat]
    exact writes
  · rw [arrived, returned, flatMap_concat, flatMap_concat]
    exact receives

theorem Agrees.send {record : List Outcome} (agrees : channel.Agrees record) (message : Bytes) :
    (channel.send message).2.Agrees (record ++ [.sent message (channel.send message).1]) :=
  .concat (agrees.writes.send message) (agrees.receives.send message) rfl (List.append_nil _)
    (List.append_nil _) (List.append_nil _)

theorem step_agrees {after : Channel} {record : List Outcome} {action : Action} {outcome : Outcome}
    (stepped : channel.step? action = some (after, outcome)) (agrees : channel.Agrees record) :
    after.Agrees (record ++ [outcome]) := by
  have nil (bytes : Bytes) : bytes ++ [] = bytes := List.append_nil bytes
  have none (messages : List Bytes) : messages ++ [] = messages := List.append_nil messages
  obtain ⟨writes, receives⟩ := agrees
  cases action with
  | send message =>
      obtain ⟨rfl, rfl⟩ := Prod.mk.inj (Option.some.inj stepped)
      exact Agrees.send ⟨writes, receives⟩ message
  | sendText text =>
      obtain ⟨rfl, rfl⟩ := Prod.mk.inj (Option.some.inj stepped)
      exact Agrees.send ⟨writes, receives⟩ (bytesOf text)
  | receive =>
      obtain ⟨rfl, rfl⟩ := Prod.mk.inj (Option.some.inj stepped)
      exact .concat writes.receive receives.receive (none _) (nil _) (nil _) rfl
  | receiveText =>
      obtain ⟨rfl, rfl⟩ := Prod.mk.inj (Option.some.inj stepped)
      have same := Outcome.returned_receivedText channel.receive.1 channel.receiveText.1
      rw [receiveText_eq] at same ⊢
      exact .concat writes.receive receives.receive (none _) (nil _) (nil _) (by rw [same])
  | arrive bytes =>
      simp only [step?] at stepped
      split at stepped
      · cases stepped
      · next isOpen =>
          obtain ⟨rfl, rfl⟩ := Prod.mk.inj (Option.some.inj stepped)
          rw [Bool.not_eq_true] at isOpen
          have stillWrites : (channel.arrive bytes).Writes (accepted record) (drained record) :=
            ⟨writes.sent, writes.unbroken, writes.front, writes.whole, writes.lost⟩
          have reads := receives.reads
          rw [isOpen] at reads
          have more : (channel.arrive bytes).Receives (arrived record ++ bytes)
              (returned record) := by
            refine ⟨receives.received, ?_⟩
            show Reads channel.incomingClosed _ _ (channel.incoming ++ bytes)
            rw [isOpen]
            exact reads.arrive bytes
          exact .concat stillWrites more (none _) (nil _) rfl (none _)
  | endArrives =>
      obtain ⟨rfl, rfl⟩ := Prod.mk.inj (Option.some.inj stepped)
      have stillWrites : channel.closeIncoming.Writes (accepted record) (drained record) :=
        ⟨writes.sent, writes.unbroken, writes.front, writes.whole, writes.lost⟩
      exact .concat stillWrites ⟨receives.received, receives.reads.close⟩ (none _) (nil _) (nil _)
        (none _)
  | close =>
      obtain ⟨rfl, rfl⟩ := Prod.mk.inj (Option.some.inj stepped)
      exact .concat writes.close ⟨receives.received, receives.reads.close⟩ (none _) (nil _) (nil _)
        (none _)
  | drain =>
      obtain ⟨rfl, rfl⟩ := Prod.mk.inj (Option.some.inj stepped)
      exact .concat writes.drain ⟨receives.received, receives.reads⟩ (none _) rfl (nil _) (none _)

theorem run_agrees {after : Channel} {actions : List Action} {record later : List Outcome}
    (ran : channel.run? actions = some (after, later)) (agrees : channel.Agrees record) :
    after.Agrees (record ++ later) := by
  induction actions generalizing channel record later with
  | nil =>
      obtain ⟨rfl, rfl⟩ := Prod.mk.inj (Option.some.inj ran)
      rwa [List.append_nil]
  | cons action others inductionHypothesis =>
      obtain ⟨middle, outcome, rest, stepped, ranRest, rfl⟩ := run?_cons ran
      have agreed := inductionHypothesis ranRest (step_agrees stepped agrees)
      rwa [List.append_assoc] at agreed

end Channel

/-! ## Two ends -/

/-- One end reads what the other has written, in any pieces. The end of the stream comes behind
all messages that were accepted. -/
structure Carried (nearRecord farRecord : List Outcome) (far : Channel) : Prop where
  pieces : arrived farRecord <+: drained nearRecord
  last : far.incomingClosed = true → arrived farRecord = framed (accepted nearRecord)

/-- The first lines of a stream of lines are the first that were sent. -/
theorem exists_of_framed_append {lines sent : List Bytes}
    (linesUnbroken : ∀ line ∈ lines, lineFeed ∉ line)
    (sentUnbroken : ∀ message ∈ sent, lineFeed ∉ message) {rest : Bytes}
    (same : framed lines ++ rest = framed sent) :
    ∃ pending, sent = lines ++ pending ∧ rest = framed pending := by
  induction lines generalizing sent with
  | nil => exact ⟨sent, rfl, same⟩
  | cons line others inductionHypothesis =>
      obtain ⟨lineFirst, othersUnbroken⟩ := List.forall_mem_cons.mp linesUnbroken
      cases sent with
      | nil =>
          rw [framed_cons] at same
          cases line with
          | nil => cases same
          | cons byte bytes => cases same
      | cons message later =>
          obtain ⟨messageFirst, laterUnbroken⟩ := List.forall_mem_cons.mp sentUnbroken
          rw [framed_cons, framed_cons, List.append_assoc, List.cons_append] at same
          have front := congrArg (List.takeWhile (· != lineFeed)) same
          rw [takeWhile_append_lineFeed lineFirst, takeWhile_append_lineFeed messageFirst] at front
          subst front
          have back := (List.cons.inj (List.append_cancel_left same)).2
          obtain ⟨pending, rfl, isRest⟩ := inductionHypothesis othersUnbroken laterUnbroken back
          exact ⟨pending, rfl, isRest⟩

/-- What one end has returned is the first of what the other has accepted. What is left is the
lines of the rest, once all bytes have arrived. -/
theorem Carried.exists_pending {near far : Channel} {nearRecord farRecord : List Outcome}
    (carried : Carried nearRecord farRecord far) (nearAgrees : near.Agrees nearRecord)
    (farAgrees : far.Agrees farRecord) :
    ∃ pending, (∀ message ∈ pending, lineFeed ∉ message) ∧
      (accepted nearRecord).map dropReturn = returned farRecord ++ pending.map dropReturn ∧
      (arrived farRecord = framed (accepted nearRecord) → far.incoming = framed pending) := by
  have sentUnbroken := nearAgrees.writes.unbroken
  cases farAgrees.receives.reads with
  | lines lines unbroken split same =>
      obtain ⟨more, whole⟩ := carried.pieces.trans nearAgrees.writes.front
      rw [split, List.append_assoc] at whole
      obtain ⟨pending, isAccepted, rest⟩ := exists_of_framed_append unbroken sentUnbroken whole
      refine ⟨pending, ?_, ?_, ?_⟩
      · intro message member
        apply sentUnbroken
        rw [isAccepted]
        exact List.mem_append_right lines member
      · rw [isAccepted, same, List.map_append]
      · intro everything
        rw [split, isAccepted, framed_append] at everything
        exact List.append_cancel_left everything
  | remainder lines part unbroken partUnbroken nonempty isClosed nothing split same =>
      have whole := carried.last isClosed
      rw [split] at whole
      obtain ⟨pending, -, isPart⟩ := exists_of_framed_append unbroken sentUnbroken whole
      -- A nonempty part without a line feed is not made of lines.
      cases pending with
      | nil => exact absurd isPart nonempty
      | cons message others =>
          rw [isPart, framed_cons] at partUnbroken
          exact absurd (List.mem_append_right message List.mem_cons_self) partUnbroken

/-- What receiving gives when nothing is left. -/
def Channel.silence (channel : Channel) : Receipt Bytes :=
  if channel.incomingClosed then .ended else .waiting

theorem Channel.receive_of_nil {channel : Channel} (nothing : channel.incoming = []) :
    channel.receive = (channel.silence, channel) := by
  rcases channel.receive_cases with
    ⟨content, rest, taken, -⟩ | ⟨received, isClosed, -⟩ | ⟨received, isOpen, -⟩
  · exact absurd nothing taken.ne_nil
  · rw [received, silence, if_pos isClosed]
  · rw [received, silence, isOpen]
    rfl

/-- Lines are received one by one, and then nothing. -/
theorem receipts_framed (count : Nat) {channel : Channel} {pending : List Bytes}
    (unbroken : ∀ message ∈ pending, lineFeed ∉ message)
    (incoming : channel.incoming = framed pending) :
    channel.receipts count =
      ((pending.map dropReturn).map Receipt.message ++
        List.replicate count channel.silence).take count := by
  induction count generalizing channel pending with
  | zero => rfl
  | succ count inductionHypothesis =>
      rw [Channel.receipts]
      cases pending with
      | nil =>
          rw [Channel.receive_of_nil incoming, inductionHypothesis unbroken incoming]
          simp [List.replicate_succ]
      | cons message others =>
          obtain ⟨first, later⟩ := List.forall_mem_cons.mp unbroken
          have received : channel.receive =
              (.message (dropReturn message), channel.take (dropReturn message) (framed others)) := by
            simp only [Channel.receive, incoming, framed_cons, receive_append first]
          rw [received, inductionHypothesis later rfl, List.map_cons, List.map_cons,
            List.cons_append, List.take_succ_cons]
          congr 1
          simp only [List.take_append, List.take_replicate]
          congr 2
          omega

theorem dropReturn_eq_self_iff (message : Bytes) :
    dropReturn message = message ↔ message.getLast? ≠ some carriageReturn := by
  unfold dropReturn
  split
  · next last =>
      constructor
      · intro same
        have shorter := congrArg List.length same
        rw [List.length_dropLast] at shorter
        have nonempty : message ≠ [] := by
          rintro rfl
          cases last
        have positive := List.length_pos_iff.mpr nonempty
        omega
      · exact fun other => absurd last other
  · next other => exact ⟨fun _ => other, fun _ => rfl⟩

/-- The messages that one end has accepted are received at the other, one by one and in order,
without a carriage return at their end, in whatever pieces their bytes arrive. A message with a
line feed is refused and leaves everything as it was. The counters hold the lengths of what was
accepted and of what was returned, modulo 2^64. -/
theorem connections_carry_messages (near far : Channel) (sending receiving : List Action)
    (nearRecord farRecord : List Outcome)
    (nearRan : Channel.fresh.run? sending = some (near, nearRecord))
    (farRan : Channel.fresh.run? receiving = some (far, farRecord)) :
    (∀ message, lineFeed ∈ message → near.send message = (.error brokenLine, near)) ∧
    (∀ message, (near.send message).1 = .ok () ↔
      lineFeed ∉ message ∧ near.outgoingOpen = true) ∧
    near.sent = UInt64.ofNat (volume (accepted nearRecord)) ∧
    near.received = UInt64.ofNat (volume (returned nearRecord)) ∧
    (volume (accepted nearRecord) < 2 ^ 64 → near.sent.toNat = volume (accepted nearRecord)) ∧
    (volume (returned nearRecord) < 2 ^ 64 → near.received.toNat = volume (returned nearRecord)) ∧
    near.receiveText = (Channel.asText near.receive.1, near.receive.2) ∧
    (Carried nearRecord farRecord far → ∃ pending,
      (accepted nearRecord).map dropReturn = returned farRecord ++ pending ∧
        (arrived farRecord = framed (accepted nearRecord) → ∀ count,
          far.receipts count =
            (pending.map Receipt.message ++ List.replicate count far.silence).take count)) ∧
    ∀ message, dropReturn message = message ↔ message.getLast? ≠ some carriageReturn := by
  have nearAgrees : near.Agrees nearRecord := Channel.run_agrees nearRan Channel.fresh_agrees
  have farAgrees : far.Agrees farRecord := Channel.run_agrees farRan Channel.fresh_agrees
  have sent := nearAgrees.writes.sent
  have received := nearAgrees.receives.received
  refine ⟨?_, ?_, sent, received, sent.toNat_eq, received.toNat_eq, near.receiveText_eq, ?_,
    dropReturn_eq_self_iff⟩
  · intro message broken
    exact Channel.send_of_broken broken near
  · intro message
    constructor
    · intro accepts
      rcases near.send_cases message with ⟨fault, refused⟩ | ⟨unbroken, isOpen, -⟩
      · rw [refused] at accepts
        cases accepts
      · exact ⟨unbroken, isOpen⟩
    · rintro ⟨unbroken, isOpen⟩
      rw [send_of_unbroken unbroken isOpen]
  · intro carried
    obtain ⟨pending, unbroken, same, incoming⟩ := carried.exists_pending nearAgrees farAgrees
    refine ⟨pending.map dropReturn, same, ?_⟩
    intro everything count
    exact receipts_framed count unbroken (incoming everything)

/-- Four messages, one of them with a line feed and one that is no text, arrive in three pieces
that are not cut at lines. -/
theorem connections_carry_messages_in_pieces :
    ∃ near far nearRecord farRecord,
      Channel.fresh.run? [.send [97, 98], .send [1, 10], .send [255, 13], .send [], .drain] =
        some (near, nearRecord) ∧
      Channel.fresh.run? [.arrive [97], .receive, .arrive [98, 10, 255], .receive,
        .arrive [13, 10, 10], .receiveText] = some (far, farRecord) ∧
      near.sent.toNat = 4 ∧ far.received.toNat = 3 ∧
      (∃ pending, [[97, 98], [255], []] = [[97, 98], [255]] ++ pending ∧
        far.receipts 2 = (pending.map Receipt.message ++ [.waiting, .waiting]).take 2) := by
  have nearRan : Channel.fresh.run?
      [.send [97, 98], .send [1, 10], .send [255, 13], .send [], .drain] = some (_, _) := rfl
  have farRan : Channel.fresh.run? [.arrive [97], .receive, .arrive [98, 10, 255], .receive,
      .arrive [13, 10, 10], .receiveText] = some (_, _) := rfl
  have near := connections_carry_messages _ _ _ _ _ _ nearRan farRan
  have far := connections_carry_messages _ _ _ _ _ _ farRan nearRan
  obtain ⟨-, -, -, -, sent, -, -, carry, -⟩ := near
  obtain ⟨-, -, -, -, -, received, -⟩ := far
  refine ⟨_, _, _, _, nearRan, farRan, sent (by decide), received (by decide), ?_⟩
  obtain ⟨pending, same, receipts⟩ := carry ⟨⟨[], rfl⟩, nofun⟩
  exact ⟨pending, same, receipts rfl 2⟩

end ArithmeticCloud.Transport
