import ArithmeticCloud.Proofs.Concurrency.Actors
import ArithmeticCloud.Proofs.Fleet.Records
import ArithmeticCloud.Proofs.Transport.Lines
import ArithmeticCloud.Proofs.Wire.Messages
import ArithmeticCloud.Service.Controller

/-!
Contract: the loop that receives datagrams on behalf of the registry.

Owns:
- `Listener.run?`, the loop over any datagrams, with turns of the actor that owns the
  registry anywhere in between;
- what a run comes to: the loop goes on, signs of life are noted in order of arrival, and
  each `hello` is answered once;
- that a `hello` leaves no trace, and that the controller, which takes one datagram after
  the other, does the same.

Does not own: the socket. What the loop sends counts as sent.
-/

namespace ArithmeticCloud.Service

open Concurrency Fleet Network Transport Wire

/-! ## Datagrams that arrive -/

/-- A datagram that reaches the listener. -/
structure Packet where
  source : Endpoint
  time : Int64
  bytes : Bytes
  within : bytes.length ≤ datagramLimit
deriving DecidableEq, Repr

namespace Packet

def datagram? (packet : Packet) : Option Datagram :=
  (text? packet.bytes).bind Datagram.decode?

theorem receiveDatagram?_bytes (packet : Packet) :
    receiveDatagram? packet.bytes = packet.datagram? := by
  rw [receiveDatagram?, List.take_of_length_le packet.within]
  rfl

def IsHello (packet : Packet) : Prop := packet.datagram? = some .hello

instance (packet : Packet) : Decidable packet.IsHello :=
  inferInstanceAs (Decidable (_ = _))

/-- What a sign of life tells the registry. Nothing else tells it anything. -/
def notice? (packet : Packet) : Option RegistryRequest :=
  match packet.datagram? with
  | some (.alive tcp operators) =>
      some (.upsert packet.source.address tcp operators packet.time)
  | _ => none

/-- The node that gives a sign of life. -/
def living? (packet : Packet) : Option Endpoint := packet.notice?.bind RegistryRequest.noticed?

theorem notice?_of_isHello {packet : Packet} (isHello : packet.IsHello) :
    packet.notice? = none := by
  rw [notice?, isHello]

end Packet

/-- What is sent on account of a packet, each with its destination. -/
abbrev Sent := List (Endpoint × Bytes)

/-- The registry after the signs of life among some packets, in order of arrival. -/
def noting (registry : Registry) (packets : List Packet) : Registry :=
  (packets.filterMap Packet.notice?).foldl (fun registry notice => (registry.handle notice).2)
    registry

theorem noting_append (registry : Registry) (earlier later : List Packet) :
    noting registry (earlier ++ later) = noting (noting registry earlier) later := by
  rw [noting, List.filterMap_append, List.foldl_append]
  rfl

theorem noting_of_notice?_eq_none (registry : Registry) {packet : Packet}
    (nothing : packet.notice? = none) : noting registry [packet] = registry := by
  rw [noting, List.filterMap_cons_none nothing]
  rfl

theorem noting_of_notice? (registry : Registry) {packet : Packet} {notice : RegistryRequest}
    (noticed : packet.notice? = some notice) :
    noting registry [packet] = (registry.handle notice).2 := by
  rw [noting, List.filterMap_cons_some noticed]
  rfl

/-- The nodes with a record after some packets, in the order in which they were first
seen. -/
def firstSeen (registry : Registry) (packets : List Packet) : List Endpoint :=
  let known := registry.records.map NodeRecord.endpoint
  known ++ ((packets.filterMap Packet.living?).filter fun node => node ∉ known).eraseDups

theorem endpoints_noting (registry : Registry) (packets : List Packet) :
    (noting registry packets).records.map NodeRecord.endpoint = firstSeen registry packets := by
  have living : packets.filterMap Packet.living? =
      (packets.filterMap Packet.notice?).filterMap RegistryRequest.noticed? :=
    List.filterMap_filterMap.symm
  rw [firstSeen, living]
  exact Registry.endpoints_foldl_handle registry _

/-- What the registry makes of a packet: what is to be sent on account of it. -/
def answersTo (ceiling : UInt64) (registry : Registry) (packet : Packet) : Sent :=
  if packet.IsHello then
    [(packet.source, bytesOf (registry.snapshot ceiling).toDatagram.encode)]
  else
    []

/-- Packets with what is to be sent on account of each. -/
def exchanges (ceiling : UInt64) : Registry → List Packet → List (Packet × Sent)
  | _, [] => []
  | registry, packet :: later =>
      (packet, answersTo ceiling registry packet) ::
        exchanges ceiling (noting registry [packet]) later

theorem exchanges_append (ceiling : UInt64) (registry : Registry) (earlier later : List Packet) :
    exchanges ceiling registry (earlier ++ later) =
      exchanges ceiling registry earlier ++ exchanges ceiling (noting registry earlier) later := by
  induction earlier generalizing registry with
  | nil => rfl
  | cons packet rest inductionHypothesis =>
      rw [List.cons_append, exchanges, inductionHypothesis, ← noting_append]
      rfl

theorem map_fst_exchanges (ceiling : UInt64) (registry : Registry) (packets : List Packet) :
    (exchanges ceiling registry packets).map Prod.fst = packets := by
  induction packets generalizing registry with
  | nil => rfl
  | cons packet rest inductionHypothesis =>
      rw [exchanges, List.map_cons, inductionHypothesis]

/-- What is sent on account of a packet depends on the packets before it. -/
theorem sent_of_exchanges {ceiling : UInt64} {registry : Registry} {packets : List Packet}
    {earlier later : List (Packet × Sent)} {packet : Packet} {sent : Sent}
    (split : exchanges ceiling registry packets = earlier ++ (packet, sent) :: later) :
    sent = answersTo ceiling (noting registry (earlier.map Prod.fst)) packet := by
  induction earlier generalizing registry packets with
  | nil =>
      cases packets with
      | nil => cases split
      | cons first rest =>
          rw [exchanges, List.nil_append, List.cons.injEq, Prod.mk.injEq] at split
          obtain ⟨⟨rfl, rfl⟩, -⟩ := split
          rfl
  | cons entry others inductionHypothesis =>
      cases packets with
      | nil => cases split
      | cons first rest =>
          rw [exchanges, List.cons_append, List.cons.injEq] at split
          obtain ⟨rfl, split⟩ := split
          rw [inductionHypothesis split, ← noting_append]
          rfl

/-! ## The loop -/

/-- The actor that owns the registry. It fills the reply slots of questions only. -/
def registryBehavior : Behavior Registry RegistryRequest RegistryAnswer where
  start := id
  handle registry request :=
    ((registry.handle request).2,
      if request.isAnswered then some (registry.handle request).1 else none)
  stop := id

/-- The actor of the registry, and what the loop has sent so far. -/
structure Listener where
  registry : Actor Registry RegistryRequest RegistryAnswer
  log : List (Packet × Sent)

/-- What can happen next. -/
inductive Occasion where
  | packet (packet : Packet)
  /-- The actor of the registry has a turn, unless it waits. -/
  | turn

/-- The packets among some occasions, in order of arrival. -/
def packetsOf (occasions : List Occasion) : List Packet :=
  occasions.filterMap fun
    | .packet packet => some packet
    | .turn => none

namespace Listener

def start (registry : Registry) : Listener := ⟨.create registry, []⟩

/-- Handles a packet. The loop ends when the registry does not answer. -/
def receive? (ceiling : UInt64) (listener : Listener) (packet : Packet) : Option Listener :=
  match receiveDatagram? packet.bytes with
  | some .hello =>
      match listener.registry.ask registryBehavior (.snapshot ceiling) with
      | (some (.snapshot snapshot), registry) =>
          some ⟨registry,
            listener.log ++ [(packet, [(packet.source, bytesOf snapshot.toDatagram.encode)])]⟩
      | _ => none
  | some (.alive tcp operators) =>
      let notice := .upsert packet.source.address tcp operators packet.time
      some ⟨(listener.registry.send notice).2, listener.log ++ [(packet, [])]⟩
  | some (.init ..) | none => some ⟨listener.registry, listener.log ++ [(packet, [])]⟩

def step? (ceiling : UInt64) (listener : Listener) : Occasion → Option Listener
  | .packet packet => listener.receive? ceiling packet
  | .turn =>
      some { listener with
        registry := (listener.registry.step? registryBehavior).getD listener.registry }

def run? (ceiling : UInt64) (listener : Listener) (occasions : List Occasion) : Option Listener :=
  occasions.foldlM (step? ceiling) listener

/-- The registry once its actor has handled what is in its mailbox. -/
def settled (listener : Listener) : Registry := (listener.registry.settle registryBehavior).state

/-- The listener after packets, whatever its actor still has in its mailbox. -/
structure Attends (ceiling : UInt64) (registry : Registry) (packets : List Packet)
    (listener : Listener) : Prop where
  serving : listener.registry.Serving registryBehavior (noting registry packets)
  log : listener.log = exchanges ceiling registry packets

variable {ceiling : UInt64} {registry : Registry} {packets : List Packet} {listener : Listener}

theorem Attends.receive (attends : Attends ceiling registry packets listener) (packet : Packet) :
    ∃ next, listener.receive? ceiling packet = some next ∧
      Attends ceiling registry (packets ++ [packet]) next := by
  have log {sent : Sent} (same : answersTo ceiling (noting registry packets) packet = sent) :
      listener.log ++ [(packet, sent)] = exchanges ceiling registry (packets ++ [packet]) := by
    rw [exchanges_append, attends.log, ← same]
    rfl
  have serving {actor : Actor Registry RegistryRequest RegistryAnswer} {after : Registry}
      (noted : noting (noting registry packets) [packet] = after)
      (served : actor.Serving registryBehavior after) :
      actor.Serving registryBehavior (noting registry (packets ++ [packet])) := by
    rw [noting_append, noted]
    exact served
  -- A packet that neither asks nor tells anything.
  have dropped (unasked : ¬ packet.IsHello) (untold : packet.notice? = none) :
      Attends ceiling registry (packets ++ [packet])
        ⟨listener.registry, listener.log ++ [(packet, [])]⟩ :=
    ⟨serving (noting_of_notice?_eq_none _ untold) attends.serving, log (if_neg unasked)⟩
  unfold receive?
  rw [packet.receiveDatagram?_bytes]
  cases read : packet.datagram? with
  | none => exact ⟨_, rfl, dropped (by simp [Packet.IsHello, read]) (by simp [Packet.notice?, read])⟩
  | some datagram =>
      cases datagram with
      | hello =>
          obtain ⟨answered, served⟩ := attends.serving.ask (.snapshot ceiling)
          rcases asked : listener.registry.ask registryBehavior (.snapshot ceiling) with ⟨reply, actor⟩
          rw [asked] at answered served
          dsimp only at answered
          subst answered
          exact ⟨_, rfl,
            serving (noting_of_notice?_eq_none _ (Packet.notice?_of_isHello read)) served,
            log (if_pos read)⟩
      | alive tcp operators =>
          have told : packet.notice? =
              some (.upsert packet.source.address tcp operators packet.time) := by
            simp [Packet.notice?, read]
          exact ⟨_, rfl, serving (noting_of_notice? _ told) (attends.serving.send _),
            log (if_neg (by simp [Packet.IsHello, read]))⟩
      | init peers ceiling =>
          exact ⟨_, rfl, dropped (by simp [Packet.IsHello, read]) (by simp [Packet.notice?, read])⟩

theorem Attends.turn (attends : Attends ceiling registry packets listener) :
    Attends ceiling registry packets { listener with
      registry := (listener.registry.step? registryBehavior).getD listener.registry } := by
  refine ⟨?_, attends.log⟩
  cases stepped : listener.registry.step? registryBehavior with
  | none => exact attends.serving
  | some next => exact attends.serving.step stepped

/-- The loop goes on, whatever arrives. -/
theorem Attends.run (attends : Attends ceiling registry packets listener)
    (occasions : List Occasion) :
    ∃ next, listener.run? ceiling occasions = some next ∧
      Attends ceiling registry (packets ++ packetsOf occasions) next := by
  induction occasions generalizing listener packets with
  | nil => exact ⟨listener, rfl, by rwa [packetsOf, List.filterMap_nil, List.append_nil]⟩
  | cons occasion rest inductionHypothesis =>
      cases occasion with
      | turn => exact inductionHypothesis attends.turn
      | packet packet =>
          obtain ⟨next, received, attending⟩ := attends.receive packet
          obtain ⟨last, ran, attended⟩ := inductionHypothesis attending
          refine ⟨last, ?_, ?_⟩
          · rw [run?, List.foldlM_cons]
            show (listener.receive? ceiling packet).bind _ = _
            rw [received]
            exact ran
          · rw [List.append_assoc] at attended
            exact attended

theorem attends_start (ceiling : UInt64) (registry : Registry) :
    Attends ceiling registry [] (start registry) :=
  ⟨.create registry, rfl⟩

theorem Attends.settled_eq (attends : Attends ceiling registry packets listener) :
    listener.settled = noting registry packets :=
  attends.serving.state_settle

end Listener

/-! ## One datagram after the other -/

/-- The controller takes packets with nothing in between, and what it answers is sent. -/
def receiveEach {σ : Type} (controller : Controller σ) :
    List Packet → List (Packet × Sent) × Controller σ
  | [] => ([], controller)
  | packet :: later =>
      let (reply, after) :=
        controller.receiveDatagram packet.time packet.source.address packet.bytes
      let sent := reply.toList.map fun datagram => (packet.source, bytesOf datagram.encode)
      let (log, last) := receiveEach after later
      ((packet, sent) :: log, last)

theorem handleDatagram_eq (registry : Registry) (ceiling : UInt64) (packet : Packet) :
    registry.handleDatagram ceiling packet.time packet.source.address packet.bytes =
      (if packet.IsHello then some (registry.snapshot ceiling).toDatagram else none,
        noting registry [packet]) := by
  unfold Registry.handleDatagram
  rw [packet.receiveDatagram?_bytes]
  cases read : packet.datagram? with
  | none => simp [Packet.IsHello, read, noting, Packet.notice?]
  | some datagram =>
      cases datagram <;> simp [Packet.IsHello, read, noting, Packet.notice?, Registry.handle]

theorem receiveEach_eq {σ : Type} (controller : Controller σ)
    (runs : controller.registryRuns = true) (packets : List Packet) :
    receiveEach controller packets =
      (exchanges controller.ceiling controller.registry packets,
        { controller with registry := noting controller.registry packets }) := by
  induction packets generalizing controller with
  | nil => rfl
  | cons packet later inductionHypothesis =>
      have received : controller.receiveDatagram packet.time packet.source.address packet.bytes =
          (if packet.IsHello then some (controller.registry.snapshot controller.ceiling).toDatagram
            else none,
            { controller with registry := noting controller.registry [packet] }) := by
        unfold Controller.receiveDatagram Controller.askRegistry
        rw [if_pos runs]
        dsimp only
        rw [handleDatagram_eq]
      rw [receiveEach, received]
      dsimp only
      rw [inductionHypothesis { controller with registry := noting controller.registry [packet] }
        runs]
      dsimp only
      rw [← noting_append, List.singleton_append, exchanges, answersTo]
      by_cases isHello : packet.IsHello <;> simp [isHello]

/-! ## More of the same -/

/-- The second list is the first one with more elements in any places, all of one kind. -/
inductive Inserted {α : Type} (IsMore : α → Prop) : List α → List α → Prop
  | nil : Inserted IsMore [] []
  | kept {fewer more : List α} (element : α) (rest : Inserted IsMore fewer more) :
      Inserted IsMore (element :: fewer) (element :: more)
  | added {fewer more : List α} {element : α} (isMore : IsMore element)
      (rest : Inserted IsMore fewer more) : Inserted IsMore fewer (element :: more)

section Hellos

variable {fewer more : List Packet} (inserted : Inserted Packet.IsHello fewer more)
include inserted

theorem noting_of_inserted (registry : Registry) : noting registry fewer = noting registry more := by
  have notices : fewer.filterMap Packet.notice? = more.filterMap Packet.notice? := by
    induction inserted with
    | nil => rfl
    | kept packet rest inductionHypothesis =>
        rw [List.filterMap_cons, List.filterMap_cons, inductionHypothesis]
    | added isHello rest inductionHypothesis =>
        rw [List.filterMap_cons_none (Packet.notice?_of_isHello isHello), inductionHypothesis]
  rw [noting, noting, notices]

theorem exchanges_of_inserted (ceiling : UInt64) (registry : Registry) :
    Inserted (fun entry : Packet × Sent => entry.1.IsHello) (exchanges ceiling registry fewer)
      (exchanges ceiling registry more) := by
  induction inserted generalizing registry with
  | nil => exact .nil
  | kept packet rest inductionHypothesis => exact .kept _ (inductionHypothesis _)
  | added isHello rest inductionHypothesis =>
      refine .added isHello ?_
      rw [noting_of_notice?_eq_none registry (Packet.notice?_of_isHello isHello)]
      exact inductionHypothesis registry

end Hellos

/-! ## The whole loop -/

/-- Whatever reaches the listener, and whenever the actor of the registry has its turns: the
loop goes on; the registry comes to have noted the signs of life in order of arrival; each
`hello` is answered once, where it came from, with the nodes that are online after what
arrived before it, and nothing else is sent. Handled one at a time by the controller, the
datagrams have the same answers and effect. More `hello`s change nothing else. -/
theorem datagrams_are_noted_and_answered {σ : Type} (controller : Controller σ)
    (runs : controller.registryRuns = true) (occasions : List Occasion) :
    ∃ listener,
      Listener.run? controller.ceiling (.start controller.registry) occasions = some listener ∧
      listener.settled = noting controller.registry (packetsOf occasions) ∧
      listener.log.map Prod.fst = packetsOf occasions ∧
      (∀ earlier packet sent later, listener.log = earlier ++ (packet, sent) :: later →
        let registry := noting controller.registry (earlier.map Prod.fst)
        registry.records.map NodeRecord.endpoint =
            firstSeen controller.registry (earlier.map Prod.fst) ∧
          if packet.IsHello then
            ∃ reply, sent = [(packet.source, reply)] ∧ (text? reply).bind Datagram.decode? =
              some (.init registry.onlineEndpoints controller.ceiling)
          else
            sent = []) ∧
      receiveEach controller (packetsOf occasions) =
        (listener.log, { controller with registry := listener.settled }) ∧
      ∀ others, Inserted Packet.IsHello (packetsOf occasions) (packetsOf others) →
        ∃ other,
          Listener.run? controller.ceiling (.start controller.registry) others = some other ∧
          other.settled = listener.settled ∧
          Inserted (fun entry => entry.1.IsHello) listener.log other.log := by
  obtain ⟨listener, ran, attends⟩ :=
    (Listener.attends_start controller.ceiling controller.registry).run occasions
  rw [List.nil_append] at attends
  refine ⟨listener, ran, attends.settled_eq, ?_, ?_, ?_, ?_⟩
  · rw [attends.log, map_fst_exchanges]
  · intro earlier packet sent later split
    refine ⟨endpoints_noting _ _, ?_⟩
    rw [attends.log] at split
    rw [sent_of_exchanges split, answersTo]
    split
    · refine ⟨_, rfl, ?_⟩
      rw [text?_bytesOf, Option.bind_some, Snapshot.toDatagram, Registry.snapshot,
        Datagram.decode?_encode_init]
    · rfl
  · rw [attends.log, attends.settled_eq]
    exact receiveEach_eq controller runs _
  · intro others inserted
    obtain ⟨other, ranToo, attendsToo⟩ :=
      (Listener.attends_start controller.ceiling controller.registry).run others
    rw [List.nil_append] at attendsToo
    refine ⟨other, ranToo, ?_, ?_⟩
    · rw [attendsToo.settled_eq, attends.settled_eq, noting_of_inserted inserted]
    · rw [attendsToo.log, attends.log]
      exact exchanges_of_inserted inserted _ _

/-- A text that comes from one and the same socket. -/
def packetOf (text : String) (within : (bytesOf text).length ≤ datagramLimit) : Packet :=
  ⟨.v4 .loopback 5000, 12, bytesOf text, within⟩

def helloPacket : Packet := packetOf "hello" (by decide +kernel)

def alivePacket : Packet := packetOf "!alive 7000 +-" (by decide +kernel)

def junkPacket : Packet := ⟨.v4 .loopback 5001, 13, [255, 254, 0], by decide⟩

/-- A node, something that is no text, and a `hello`; and an earlier `hello` in addition. -/
theorem datagrams_are_noted_and_answered_oneNode :
    (Controller.start 300 [] ()).registryRuns = true ∧
    ∃ listener other reply,
      Listener.run? 300 (.start .empty) [.packet alivePacket, .packet junkPacket,
        .turn, .packet helloPacket] = some listener ∧
      listener.settled.onlineEndpoints = [.v4 .loopback 7000] ∧
      listener.log.getLast? = some (helloPacket, [(.v4 .loopback 5000, reply)]) ∧
      (text? reply).bind Datagram.decode? = some (.init [.v4 .loopback 7000] 300) ∧
      Listener.run? 300 (.start .empty) [.packet helloPacket, .packet alivePacket,
        .packet junkPacket, .packet helloPacket] = some other ∧
      other.settled = listener.settled := by
  obtain ⟨listener, ran, noted, heard, answered, -, hellos⟩ :=
    datagrams_are_noted_and_answered (Controller.start 300 [] ()) rfl
      [.packet alivePacket, .packet junkPacket, .turn, .packet helloPacket]
  have isHello : helloPacket.IsHello := by decide +kernel
  obtain ⟨earlier, last, log, before, rest⟩ := List.map_eq_append_iff.mp
    (show listener.log.map Prod.fst = [alivePacket, junkPacket] ++ [helloPacket] from heard)
  obtain ⟨⟨packet, sent⟩, rfl, same⟩ := List.map_eq_singleton_iff.mp rest
  obtain rfl : packet = helloPacket := same
  have reply := (answered earlier helloPacket sent [] log).2
  rw [if_pos isHello, before] at reply
  obtain ⟨reply, rfl, read⟩ := reply
  obtain ⟨other, ranToo, settled, -⟩ := hellos
    [.packet helloPacket, .packet alivePacket, .packet junkPacket, .packet helloPacket]
    (.added isHello (.kept _ (.kept _ (.kept _ .nil))))
  refine ⟨rfl, listener, other, reply, ran, ?_, ?_, read.trans ?_, ranToo, settled⟩
  · rw [noted]
    decide +kernel
  · rw [log, List.getLast?_concat]
    rfl
  · decide +kernel

end ArithmeticCloud.Service
