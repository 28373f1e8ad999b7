import ArithmeticCloud.Cloud
import ArithmeticCloud.Proofs.Node.RecordLines
import ArithmeticCloud.Proofs.Service.Truncation
import ArithmeticCloud.Proofs.Permutations
import ArithmeticCloud.Proofs.Transport.Connections

/-!
Contract: histories that are fetched from several nodes at the same time.

Owns:
- the fetch of one history: exactly the records of a node that serves, and nothing from a stream
  with a message that is no record;
- fetches side by side, step by step in whatever order, and the collector, which waits for them in
  the order of the list;
- what each fetch will come to, which no step changes, and the number of steps that are left;
- the merged histories, whatever the order of the steps was.

Does not own: what nodes compute in the meantime.
-/

namespace ArithmeticCloud

open Fleet Network Node Service Text Transport Wire

namespace Fleet

/-- Exactly the records are read from the stream of their lines. -/
theorem fetchRecords_streamOf (records : List ComputeRecord) :
    fetchRecords (streamOf (records.map fun record => String.ofList record.text)) =
      .ok records := by
  have areLines : ∀ line ∈ records.map fun record => String.ofList record.text, IsLine line := by
    intro line member
    obtain ⟨record, -, rfl⟩ := List.mem_map.mp member
    exact record.isLine_text
  rw [fetchRecords, messages_streamOf areLines]
  clear areLines
  induction records with
  | nil => rfl
  | cons record others inductionHypothesis =>
      rw [List.map_cons, List.map_cons, readRecords, text?_bytesOf]
      simp only [String.toList_ofList, record.parse?_text, inductionHypothesis]
      rfl

/-- A message of a history that is a record. -/
def IsRecord (message : Bytes) : Prop :=
  ∃ line record, text? message = some line ∧ readRecord? line = some record

/-- One message that is no record keeps all of them from being read. -/
theorem exists_error_of_not_isRecord {stream message : Bytes} (sent : message ∈ messages stream)
    (noRecord : ¬ IsRecord message) : ∃ fault, fetchRecords stream = .error fault := by
  cases read : fetchRecords stream with
  | error fault => exact ⟨fault, rfl⟩
  | ok records =>
      exfalso
      have each := readRecords_forall₂ read
      clear read
      generalize messages stream = received at sent each
      induction each with
      | nil => cases sent
      | cons isRecord _ inductionHypothesis =>
          rcases List.mem_cons.mp sent with rfl | later
          · obtain ⟨line, valid, parsed⟩ := isRecord
            exact noRecord ⟨line, _, valid, parsed⟩
          · exact inductionHypothesis later

/-! ## Fetches -/

/-- The fetch of one history, from the start of its task to its end. -/
inductive Fetch where
  | waiting
  /-- Connected. Some bytes are still under way, and some records were read. -/
  | reading (unsent : Bytes) (channel : Channel) (records : List ComputeRecord)
  | finished (answer : Except Fault (List ComputeRecord))

inductive FetchEvent where
  | connect
  /-- Some bytes arrive, as many as it happens. -/
  | arrive (count : Nat)
  /-- The node has closed the connection, and everything has arrived. -/
  | endArrives
  /-- One line is read, or the end of the stream. -/
  | read
deriving DecidableEq, Repr

namespace Fetch

/-- What reading a line leads to. Without a line the fetch waits. -/
def takeLine? (unsent : Bytes) (records : List ComputeRecord) :
    Receipt String × Channel → Option Fetch
  | (.message line, channel) =>
      match ComputeRecord.parse? line.toList with
      | some record => some (.reading unsent channel (records ++ [record]))
      | none => some (.finished (.error (.protocol ("unexpected log record `" ++ line ++ "`"))))
  | (.ended, _) => some (.finished (.ok records))
  | (.failed fault, _) => some (.finished (.error fault))
  | (.waiting, _) => none

/-- A step of the fetch from a node that answers with these bytes, or cannot be asked. -/
def step? (answer : Except Fault Bytes) : Fetch → FetchEvent → Option Fetch
  | .waiting, .connect =>
      match answer with
      | .ok stream => some (.reading stream .fresh [])
      | .error fault => some (.finished (.error fault))
  | .reading unsent channel records, .arrive count =>
      if 0 < count ∧ count ≤ unsent.length then
        some (.reading (unsent.drop count) (channel.arrive (unsent.take count)) records)
      else
        none
  | .reading unsent channel records, .endArrives =>
      if unsent = [] ∧ channel.incomingClosed = false then
        some (.reading unsent channel.closeIncoming records)
      else
        none
  | .reading unsent channel records, .read => takeLine? unsent records channel.receiveText
  | _, _ => none

/-- The end of the stream comes last. -/
def Sound : Fetch → Prop
  | .reading unsent channel _ => channel.incomingClosed = true → unsent = []
  | _ => True

/-- What the fetch will come to. -/
def prospect (answer : Except Fault Bytes) : Fetch → Except Fault (List ComputeRecord)
  | .waiting => answer.bind fetchRecords
  | .reading unsent channel records =>
      (readRecords (messages (channel.incoming ++ unsent))).map (records ++ ·)
  | .finished found => found

/-- A bound on the number of steps that are left. Bytes are counted once when they arrive and once
when they are read. -/
def cost (answer : Except Fault Bytes) : Fetch → Nat
  | .waiting =>
      match answer with
      | .ok stream => 2 * stream.length + 3
      | .error _ => 1
  | .reading unsent channel _ =>
      2 * unsent.length + channel.incoming.length + (!channel.incomingClosed).toNat + 1
  | .finished _ => 0

variable {answer : Except Fault Bytes} {fetch after : Fetch} {event : FetchEvent}

/-- What has been read so far, with what is read later. -/
theorem map_concat (records : List ComputeRecord) (record : ComputeRecord)
    (later : Except Fault (List ComputeRecord)) :
    later.map (records ++ [record] ++ ·) = (later.map (record :: ·)).map (records ++ ·) := by
  cases later with
  | error fault => rfl
  | ok others =>
      show Except.ok (records ++ [record] ++ others) = Except.ok (records ++ record :: others)
      rw [List.append_assoc, List.singleton_append]

/-- Reading takes bytes off, or ends the fetch. -/
theorem takeLine_prospect {unsent : Bytes} {channel : Channel} {records : List ComputeRecord}
    (sound : channel.incomingClosed = true → unsent = [])
    (taken : takeLine? unsent records channel.receiveText = some after) :
    after.Sound ∧
      after.prospect answer = (reading unsent channel records).prospect answer ∧
      after.cost answer < (reading unsent channel records).cost answer := by
  rw [Channel.receiveText_eq] at taken
  rcases channel.receive_cases with
    ⟨content, rest, takes, received⟩ | ⟨received, isClosed, nothing⟩ | ⟨received, -, -⟩
  · have front : messages (channel.incoming ++ unsent) = content :: messages (rest ++ unsent) :=
      takes.messages_append sound
    have shorter : rest.length < channel.incoming.length := takes.length_lt
    rw [received] at taken
    rw [prospect, front, readRecords]
    cases valid : text? content with
    | none =>
        simp only [Channel.asText, valid, takeLine?, Option.some.injEq] at taken
        subst taken
        exact ⟨trivial, rfl, Nat.succ_pos _⟩
    | some line =>
        simp only [Channel.asText, valid, takeLine?] at taken
        cases parsed : ComputeRecord.parse? line.toList with
        | none =>
            simp only [parsed, Option.some.injEq] at taken
            subst taken
            simp only [parsed]
            exact ⟨trivial, rfl, Nat.succ_pos _⟩
        | some record =>
            simp only [parsed, Option.some.injEq] at taken
            subst taken
            simp only [parsed]
            refine ⟨sound, map_concat _ _ _, ?_⟩
            simp only [cost, Channel.incoming_take, Channel.incomingClosed_take]
            omega
  · rw [received] at taken
    simp only [Channel.asText, takeLine?, Option.some.injEq] at taken
    subst taken
    have ended : messages [] = [] := messages_of_ended rfl
    refine ⟨trivial, ?_, Nat.succ_pos _⟩
    rw [prospect, prospect, nothing, sound isClosed, List.append_nil, ended]
    show _ = Except.ok (records ++ [])
    rw [List.append_nil]
  · rw [received] at taken
    cases taken

theorem step_prospect (stepped : fetch.step? answer event = some after) (sound : fetch.Sound) :
    after.Sound ∧ after.prospect answer = fetch.prospect answer ∧
      after.cost answer < fetch.cost answer := by
  cases fetch with
  | waiting =>
      cases event with
      | connect =>
          cases answer with
          | ok stream =>
              obtain rfl := Option.some.inj stepped
              refine ⟨nofun, ?_, ?_⟩
              · show (fetchRecords stream).map ([] ++ ·) = fetchRecords stream
                cases fetchRecords stream with
                | ok records => rfl
                | error fault => rfl
              · simp only [cost, Channel.fresh, List.length_nil, Bool.not_false, Bool.toNat_true]
                omega
          | error fault =>
              obtain rfl := Option.some.inj stepped
              exact ⟨trivial, rfl, Nat.one_pos⟩
      | _ => cases stepped
  | reading unsent channel records =>
      cases event with
      | connect => cases stepped
      | arrive count =>
          simp only [step?] at stepped
          split at stepped
          · next fits =>
              obtain rfl := Option.some.inj stepped
              refine ⟨?_, ?_, ?_⟩
              · intro isClosed
                rw [sound isClosed]
                exact List.drop_nil
              · simp only [prospect, Channel.arrive, List.append_assoc, List.take_append_drop]
              · simp only [cost, Channel.arrive, List.length_append, List.length_drop,
                  List.length_take]
                omega
          · cases stepped
      | endArrives =>
          simp only [step?] at stepped
          split at stepped
          · next ends =>
              obtain rfl := Option.some.inj stepped
              refine ⟨fun _ => ends.1, rfl, ?_⟩
              simp only [cost, Channel.closeIncoming, ends.2, Bool.not_true, Bool.not_false,
                Bool.toNat_true, Bool.toNat_false]
              omega
          · cases stepped
      | read => exact takeLine_prospect sound stepped
  | finished found => cases stepped

/-- Behind the end of the stream there is always something to read. -/
theorem exists_takeLine (unsent : Bytes) {channel : Channel} (records : List ComputeRecord)
    (isClosed : channel.incomingClosed = true) :
    ∃ after, takeLine? unsent records channel.receiveText = some after := by
  rw [Channel.receiveText_eq]
  rcases channel.receive_cases with
    ⟨content, rest, -, received⟩ | ⟨received, -⟩ | ⟨-, isOpen, -⟩
  · rw [received]
    simp only [Channel.asText]
    cases text? content with
    | none => exact ⟨_, rfl⟩
    | some line =>
        simp only [takeLine?]
        cases ComputeRecord.parse? line.toList with
        | none => exact ⟨_, rfl⟩
        | some record => exact ⟨_, rfl⟩
  · rw [received]
    exact ⟨_, rfl⟩
  · rw [isClosed] at isOpen
    cases isOpen

/-- A fetch that is not finished can take a step. -/
theorem exists_step (sound : fetch.Sound) (unfinished : ∀ found, fetch ≠ .finished found) :
    ∃ event after, fetch.step? answer event = some after := by
  cases fetch with
  | waiting =>
      cases answer with
      | ok stream => exact ⟨.connect, _, rfl⟩
      | error fault => exact ⟨.connect, _, rfl⟩
  | reading unsent channel records =>
      by_cases arrivedAll : unsent = []
      · cases isClosed : channel.incomingClosed with
        | false => exact ⟨.endArrives, _, if_pos ⟨arrivedAll, isClosed⟩⟩
        | true =>
            exact ⟨.read, exists_takeLine unsent records isClosed⟩
      · have positive := List.length_pos_iff.mpr arrivedAll
        exact ⟨.arrive unsent.length, _, if_pos ⟨positive, Nat.le_refl _⟩⟩
  | finished found => exact absurd rfl (unfinished found)

end Fetch

/-! ## Fetches side by side -/

/-- Fetches from several nodes, and the collector that waits for them. -/
structure Gathering where
  /-- In the order of the list. The collector waits for the first one. -/
  underWay : List (Endpoint × Fetch)
  /-- What the collector has, in the order of the list. -/
  answers : List (Endpoint × Except Fault (List ComputeRecord))

inductive GatheringEvent where
  /-- A step of the fetch at a position. -/
  | fetch (position : Nat) (event : FetchEvent)
  /-- The collector takes the answer of the fetch it waits for. -/
  | await
deriving DecidableEq, Repr

namespace Gathering

/-- All fetches start at once. -/
def start (endpoints : List Endpoint) : Gathering :=
  ⟨endpoints.map fun endpoint => (endpoint, .waiting), []⟩

/-- The merged histories, once the collector has all answers. -/
def logs? (gathering : Gathering) : Option (List NodeLog) :=
  if gathering.underWay.isEmpty then some (collectLogs gathering.answers) else none

/-- A step, where the nodes answer in this way. -/
def step? (answerOf : Endpoint → Except Fault Bytes) (gathering : Gathering) :
    GatheringEvent → Option Gathering
  | .fetch position event =>
      match gathering.underWay[position]? with
      | some (endpoint, fetch) =>
          (fetch.step? (answerOf endpoint) event).map fun after =>
            { gathering with underWay := gathering.underWay.set position (endpoint, after) }
      | none => none
  | .await =>
      match gathering.underWay with
      | (endpoint, .finished found) :: others =>
          some ⟨others, gathering.answers ++ [(endpoint, found)]⟩
      | _ => none

/-- Takes events in turn. Fails at an event that cannot happen. -/
def run? (answerOf : Endpoint → Except Fault Bytes) :
    Gathering → List GatheringEvent → Option Gathering
  | gathering, [] => some gathering
  | gathering, event :: others => do
      run? answerOf (← gathering.step? answerOf event) others

section Runs

variable {answerOf : Endpoint → Except Fault Bytes} {endpoints : List Endpoint}
  {gathering after : Gathering}

/-- What a fetch that is under way will come to. -/
def prospectOf (answerOf : Endpoint → Except Fault Bytes) (entry : Endpoint × Fetch) :
    Endpoint × Except Fault (List ComputeRecord) :=
  (entry.1, entry.2.prospect (answerOf entry.1))

/-- What will be gathered is what the nodes answer, in the order of the list. -/
structure Faithful (answerOf : Endpoint → Except Fault Bytes) (endpoints : List Endpoint)
    (gathering : Gathering) : Prop where
  sound : ∀ entry ∈ gathering.underWay, entry.2.Sound
  whole : gathering.answers ++ gathering.underWay.map (prospectOf answerOf) =
    endpoints.map fun endpoint => (endpoint, (answerOf endpoint).bind fetchRecords)

/-- A bound on the number of steps that are left. -/
def cost (answerOf : Endpoint → Except Fault Bytes) (gathering : Gathering) : Nat :=
  (gathering.underWay.map fun entry => entry.2.cost (answerOf entry.1) + 1).sum

/-- What the collector has is what the node answers. -/
theorem Faithful.eq_of_mem_answers (faithful : gathering.Faithful answerOf endpoints)
    {endpoint : Endpoint} {found : Except Fault (List ComputeRecord)}
    (has : (endpoint, found) ∈ gathering.answers) :
    found = (answerOf endpoint).bind fetchRecords := by
  have listed := List.mem_append_left (gathering.underWay.map (prospectOf answerOf)) has
  rw [faithful.whole] at listed
  obtain ⟨_, -, same⟩ := List.mem_map.mp listed
  obtain ⟨rfl, rfl⟩ := Prod.mk.inj same
  rfl

theorem start_faithful (answerOf : Endpoint → Except Fault Bytes) (endpoints : List Endpoint) :
    (start endpoints).Faithful answerOf endpoints where
  sound := by
    intro entry member
    obtain ⟨endpoint, -, rfl⟩ := List.mem_map.mp member
    trivial
  whole := by
    rw [start, List.nil_append, List.map_map]
    rfl

/-- No step changes what will be gathered, and each one is one fewer. -/
theorem step_faithful {event : GatheringEvent}
    (stepped : gathering.step? answerOf event = some after)
    (faithful : gathering.Faithful answerOf endpoints) :
    after.Faithful answerOf endpoints ∧ after.cost answerOf < gathering.cost answerOf := by
  cases event with
  | fetch position event =>
      simp only [step?] at stepped
      split at stepped
      · next endpoint fetch found =>
          obtain ⟨next, fetched, rfl⟩ := Option.map_eq_some_iff.mp stepped
          have sound := faithful.sound _ (List.mem_of_getElem? found)
          obtain ⟨nextSound, same, cheaper⟩ := Fetch.step_prospect fetched sound
          refine ⟨⟨?_, ?_⟩, ?_⟩
          · intro entry member
            rcases List.mem_or_eq_of_mem_set member with earlier | rfl
            · exact faithful.sound entry earlier
            · exact nextSound
          · rw [map_set_of_eq found (by rw [prospectOf, prospectOf, same])]
            exact faithful.whole
          · have changed := sum_map_set (endpoint, next) found fun entry =>
              entry.2.cost (answerOf entry.1) + 1
            simp only [cost]
            dsimp only at changed
            omega
      · cases stepped
  | await =>
      simp only [step?] at stepped
      split at stepped
      · next endpoint found others underWay =>
          obtain rfl := Option.some.inj stepped
          refine ⟨⟨?_, ?_⟩, ?_⟩
          · intro entry member
            apply faithful.sound
            rw [underWay]
            exact List.mem_cons_of_mem _ member
          · have whole := faithful.whole
            rw [underWay, List.map_cons] at whole
            rw [List.append_assoc]
            exact whole
          · simp only [cost, underWay, List.map_cons, List.sum_cons]
            omega
      · cases stepped

theorem run_faithful {events : List GatheringEvent}
    (ran : gathering.run? answerOf events = some after)
    (faithful : gathering.Faithful answerOf endpoints) :
    after.Faithful answerOf endpoints ∧
      after.cost answerOf + events.length ≤ gathering.cost answerOf := by
  induction events generalizing gathering with
  | nil =>
      obtain rfl := Option.some.inj ran
      exact ⟨faithful, Nat.le_refl _⟩
  | cons event others inductionHypothesis =>
      obtain ⟨middle, stepped, rest⟩ := Option.bind_eq_some_iff.mp ran
      obtain ⟨middleFaithful, cheaper⟩ := step_faithful stepped faithful
      obtain ⟨afterFaithful, bounded⟩ := inductionHypothesis rest middleFaithful
      refine ⟨afterFaithful, ?_⟩
      rw [List.length_cons]
      omega

/-- While a fetch is under way, something can happen. -/
theorem exists_step (faithful : gathering.Faithful answerOf endpoints)
    (unfinished : gathering.underWay ≠ []) :
    ∃ event after, gathering.step? answerOf event = some after := by
  cases underWay : gathering.underWay with
  | nil => exact absurd underWay unfinished
  | cons entry others =>
      obtain ⟨endpoint, fetch⟩ := entry
      have first : (endpoint, fetch) ∈ gathering.underWay := by
        rw [underWay]
        exact List.mem_cons_self
      by_cases finished : ∃ found, fetch = .finished found
      · obtain ⟨found, rfl⟩ := finished
        refine ⟨.await, ⟨others, gathering.answers ++ [(endpoint, found)]⟩, ?_⟩
        simp only [step?, underWay]
      · have unfinishedFetch : ∀ found, fetch ≠ .finished found := not_exists.mp finished
        obtain ⟨event, next, stepped⟩ :
            ∃ event next, fetch.step? (answerOf endpoint) event = some next :=
          Fetch.exists_step (faithful.sound _ first) unfinishedFetch
        refine ⟨.fetch 0 event, { gathering with
          underWay := gathering.underWay.set 0 (endpoint, next) }, ?_⟩
        simp only [step?, underWay, List.getElem?_cons_zero, stepped, Option.map_some]

/-- Every run can be brought to its end. -/
theorem exists_run_to_end (faithful : gathering.Faithful answerOf endpoints) :
    ∃ events after, gathering.run? answerOf events = some after ∧ after.underWay = [] := by
  induction size : gathering.cost answerOf using Nat.strongRecOn generalizing gathering with
  | ind size inductionHypothesis =>
      by_cases finished : gathering.underWay = []
      · exact ⟨[], gathering, rfl, finished⟩
      · obtain ⟨event, next, stepped⟩ := exists_step faithful finished
        obtain ⟨nextFaithful, cheaper⟩ := step_faithful stepped faithful
        obtain ⟨events, after, ran, ended⟩ :=
          inductionHypothesis _ (size ▸ cheaper) nextFaithful rfl
        refine ⟨event :: events, after, ?_, ended⟩
        rw [run?, stepped]
        exact ran

end Runs

end Gathering

end Fleet

/-! ## Merged histories -/

/-- A node that cannot be reached, or sends a message that is no record. -/
inductive Node.Remote.Fails : Remote → Prop where
  | unreachable : Fails .unreachable
  | garbage {stream message : Bytes} (sent : message ∈ messages stream)
      (noRecord : ¬ IsRecord message) : Fails (.answering stream)

/-- The history that a node holds. -/
def Node.Remote.held : Remote → List ComputeRecord
  | .serving server => server.history.records
  | _ => []

/-- The records that nodes hold, in the order of the list. -/
def Cloud.holdings (cloud : Cloud) (endpoints : List Endpoint) : List NodeLog :=
  endpoints.flatMap fun endpoint => (cloud.nodes.get endpoint).held.map (NodeLog.mk endpoint)

namespace Fleet

theorem fetchRecords_of_getLogs (server : Server) (now : Int64) :
    fetchRecords (streamOf (server.serveStream now (streamOf [NodeRequest.getLogs.encode])).1) =
      .ok server.history.records := by
  rw [server.lines_of_getLogs, fetchRecords_streamOf]

/-- Asked by a controller, a node that serves answers with its whole history. -/
theorem bind_ask_of_serving {nodes : Nodes} {endpoint : Endpoint} {server : Server} (now : Int64)
    (serves : nodes.get endpoint = .serving server) :
    (nodes.ask now endpoint .getLogs).1.bind fetchRecords = .ok server.history.records := by
  have asked : (nodes.ask now endpoint .getLogs).1 =
      .ok (streamOf (server.handleLine now NodeRequest.getLogs.encode).1) := by
    show ((nodes.get endpoint).ask now NodeRequest.getLogs.encode).1 = _
    rw [serves]
    rfl
  have sent : (server.handleLine now NodeRequest.getLogs.encode).1 =
      (server.serveStream now (streamOf [NodeRequest.getLogs.encode])).1 := by
    rw [server.handleLine_encode, server.serveStream_encode]
  rw [asked, sent]
  exact fetchRecords_of_getLogs server now

theorem exists_error_of_fails {remote : Remote} (fails : remote.Fails) (now : Int64)
    (line : String) : ∃ fault, (remote.ask now line).1.bind fetchRecords = .error fault := by
  cases fails with
  | unreachable => exact ⟨_, rfl⟩
  | garbage sent noRecord => exact exists_error_of_not_isRecord sent noRecord

theorem held_of_fails {remote : Remote} (fails : remote.Fails) : remote.held = [] := by
  cases fails with
  | unreachable => rfl
  | garbage sent noRecord => rfl

/-- A node contributes its whole history, or nothing at all. -/
theorem contribution_ask {nodes : Nodes} {endpoint : Endpoint} (now : Int64)
    (either : (∃ server, nodes.get endpoint = .serving server) ∨ (nodes.get endpoint).Fails) :
    contribution endpoint ((nodes.ask now endpoint .getLogs).1.bind fetchRecords) =
      (nodes.get endpoint).held.map (NodeLog.mk endpoint) := by
  rcases either with ⟨server, serves⟩ | fails
  · rw [bind_ask_of_serving now serves, serves]
    rfl
  · obtain ⟨fault, failed⟩ := exists_error_of_fails fails now NodeRequest.getLogs.encode
    show contribution endpoint
      (((nodes.get endpoint).ask now NodeRequest.getLogs.encode).1.bind fetchRecords) = _
    rw [failed, held_of_fails fails]
    rfl

end Fleet

namespace Cloud

/-- How the nodes of a cloud answer when they are asked for their histories. -/
def answerOf (cloud : Cloud) (now : Int64) (endpoint : Endpoint) : Except Fault Bytes :=
  (cloud.nodes.ask now endpoint .getLogs).1

variable {cloud : Cloud} {now : Int64} {endpoints : List Endpoint}

/-- Once the collector has all answers, it has the logs of the cloud. -/
theorem logs?_of_faithful {gathering : Gathering}
    (faithful : gathering.Faithful (cloud.answerOf now) endpoints) :
    gathering.logs? =
      if gathering.underWay.isEmpty then some (cloud.logs now endpoints) else none := by
  unfold Gathering.logs?
  split
  · next nothing =>
      have whole := faithful.whole
      rw [List.isEmpty_iff.mp nothing, List.map_nil, List.append_nil] at whole
      rw [whole]
      rfl
  · rfl

theorem logs_eq
    (each : ∀ endpoint ∈ endpoints,
      (∃ server, cloud.nodes.get endpoint = .serving server) ∨
        (cloud.nodes.get endpoint).Fails) :
    cloud.logs now endpoints = (cloud.holdings endpoints).mergeSort
      fun left right => left.record.timestamp ≤ right.record.timestamp := by
  unfold logs collectLogs
  rw [List.flatMap_map]
  congr 1
  exact List.flatMap_congr fun endpoint member => contribution_ask now (each endpoint member)

/-- Histories are fetched side by side, in any order of steps. A fetch from a node that serves
comes to exactly the records of the node. Every run can be brought to its end, where all records of
the nodes that serve are there, once for each time that the node is listed, oldest first, and those
of one time in the order of the nodes and then in the node's own order. -/
theorem logs_are_gathered (cloud : Cloud) (now : Int64) (endpoints : List Endpoint)
    (each : ∀ endpoint ∈ endpoints,
      (∃ server, cloud.nodes.get endpoint = .serving server) ∨
        (cloud.nodes.get endpoint).Fails) :
    (∀ server : Server,
      fetchRecords (streamOf (server.serveStream now (streamOf [NodeRequest.getLogs.encode])).1) =
        .ok server.history.records) ∧
    (∀ events after, (Gathering.start endpoints).run? (cloud.answerOf now) events = some after →
      (∀ endpoint server found, cloud.nodes.get endpoint = .serving server →
        (endpoint, found) ∈ after.answers → found = .ok server.history.records) ∧
      (∃ more finished, after.run? (cloud.answerOf now) more = some finished ∧
        finished.logs? = some (cloud.logs now endpoints)) ∧
      events.length ≤ (Gathering.start endpoints).cost (cloud.answerOf now) ∧
      ∀ logs, after.logs? = some logs → logs = cloud.logs now endpoints) ∧
    (cloud.logs now endpoints).Perm (cloud.holdings endpoints) ∧
    (cloud.logs now endpoints).Pairwise (fun earlier later =>
      earlier.record.timestamp ≤ later.record.timestamp) ∧
    ∀ timestamp, (cloud.logs now endpoints).filter (·.record.timestamp == timestamp) =
      (cloud.holdings endpoints).filter (·.record.timestamp == timestamp) := by
  have trans (first second third : NodeLog)
      (before : decide (first.record.timestamp ≤ second.record.timestamp) = true)
      (after : decide (second.record.timestamp ≤ third.record.timestamp) = true) :
      decide (first.record.timestamp ≤ third.record.timestamp) = true :=
    decide_eq_true (Int64.le_trans (of_decide_eq_true before) (of_decide_eq_true after))
  have total (first second : NodeLog) :
      (decide (first.record.timestamp ≤ second.record.timestamp) ||
        decide (second.record.timestamp ≤ first.record.timestamp)) = true := by
    simpa using Int64.le_total first.record.timestamp second.record.timestamp
  refine ⟨fun server => fetchRecords_of_getLogs server now, ?_, ?_, ?_, ?_⟩
  · intro events after ran
    obtain ⟨faithful, bounded⟩ :=
      Gathering.run_faithful ran (Gathering.start_faithful (cloud.answerOf now) endpoints)
    refine ⟨?_, ?_, by omega, ?_⟩
    · intro endpoint server found serves has
      rw [← bind_ask_of_serving now serves]
      exact faithful.eq_of_mem_answers has
    · obtain ⟨more, finished, ranOn, ended⟩ := Gathering.exists_run_to_end faithful
      refine ⟨more, finished, ranOn, ?_⟩
      rw [logs?_of_faithful (Gathering.run_faithful ranOn faithful).1, ended]
      rfl
    · intro logs has
      rw [logs?_of_faithful faithful] at has
      split at has
      · exact (Option.some.inj has).symm
      · cases has
  · rw [logs_eq each]
    exact List.mergeSort_perm _ _
  · rw [logs_eq each]
    exact (List.pairwise_mergeSort trans total _).imp of_decide_eq_true
  · intro timestamp
    rw [logs_eq each]
    apply filter_mergeSort trans total
    intro first _ second _ isFirst isSecond
    rw [eq_of_beq isFirst, eq_of_beq isSecond]
    exact decide_eq_true (Int64.le_refl timestamp)

/-- One node is listed twice, one sends a line that is no record behind one that is, and one cannot
be reached. -/
theorem logs_are_gathered_out_of_order :
    let addition : ComputeRecord := ⟨7, 1, .add, 2, .value 3⟩
    let division : ComputeRecord := ⟨-7, 4, .div, 0, .divisionByZero⟩
    let first : Endpoint := .v4 .loopback 7000
    let second : Endpoint := .v4 .loopback 7001
    let third : Endpoint := .v4 .loopback 7002
    let cloud : Cloud := Controller.start 8 [] ⟨[
      (first, .serving ⟨.initial 0, ⟨2, [addition, division]⟩⟩),
      (second, .answering (streamOf ["5 1 + 1 = 2", "nonsense"]))]⟩
    let endpoints := [first, second, third, first]
    ∃ after, (Gathering.start endpoints).run? (cloud.answerOf 0) [.fetch 3 .connect,
        .fetch 2 .connect, .fetch 1 .connect, .fetch 1 (.arrive 5), .fetch 3 (.arrive 12),
        .fetch 3 .read] = some after ∧
      (∃ more finished, after.run? (cloud.answerOf 0) more = some finished ∧
        finished.logs? = some (cloud.logs 0 endpoints)) ∧
      (cloud.logs 0 endpoints).Perm [⟨first, addition⟩, ⟨first, division⟩, ⟨first, addition⟩,
        ⟨first, division⟩] := by
  intro addition division first second third cloud endpoints
  have bad : "nonsense" ∈ ["5 1 + 1 = 2", "nonsense"] := by decide
  have areLines : ∀ line ∈ ["5 1 + 1 = 2", "nonsense"], IsLine line := by decide +kernel
  have sent : bytesOf "nonsense" ∈ messages (streamOf ["5 1 + 1 = 2", "nonsense"]) := by
    rw [messages_streamOf areLines]
    exact List.mem_map_of_mem bad
  have noRecord : ¬ IsRecord (bytesOf "nonsense") := by
    rintro ⟨line, record, valid, parsed⟩
    rw [text?_bytesOf] at valid
    obtain rfl := Option.some.inj valid
    have unread : readRecord? "nonsense" = none := by decide
    rw [unread] at parsed
    cases parsed
  have serves : cloud.nodes.get first = .serving ⟨.initial 0, ⟨2, [addition, division]⟩⟩ := rfl
  have each : ∀ endpoint ∈ endpoints, (∃ server, cloud.nodes.get endpoint = .serving server) ∨
      (cloud.nodes.get endpoint).Fails := by
    simp only [endpoints, List.forall_mem_cons, List.not_mem_nil, false_imp_iff, forall_true_iff,
      and_true]
    exact ⟨.inl ⟨_, serves⟩, .inr (.garbage sent noRecord), .inr .unreachable, .inl ⟨_, serves⟩⟩
  obtain ⟨after, ran⟩ : ∃ after, (Gathering.start endpoints).run? (cloud.answerOf 0)
      [.fetch 3 .connect, .fetch 2 .connect, .fetch 1 .connect, .fetch 1 (.arrive 5),
        .fetch 3 (.arrive 12), .fetch 3 .read] = some after :=
    Option.isSome_iff_exists.mp (by decide +kernel)
  have gathered := logs_are_gathered cloud 0 endpoints each
  exact ⟨after, ran, (gathered.2.1 _ after ran).2.1, gathered.2.2.1⟩

end Cloud

end ArithmeticCloud
