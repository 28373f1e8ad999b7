import ArithmeticCloud.CommandLine
import ArithmeticCloud.Joining.Request
import ArithmeticCloud.Program.Sockets

/-!
Contract: a node that runs on this machine.

Owns: one task for each connection, the datagrams of the join task, and the
exchanges with peers that the join task attempts.

Does not own: the stages of the join task and the effect of a request, which are
the pure agent's and server's.
-/

namespace ArithmeticCloud.Program

open Fleet Joining Network Node Settings Transport Wire
open Std.Async

/-- What the tasks of a node share. -/
structure RunningNode where
  agent : Agent
  history : History

namespace RunningNode

def start (settings : NodeSettings) : RunningNode :=
  ⟨.start settings.minimum, .empty settings.historyCapacity.toNat⟩

def server (node : RunningNode) : Server := ⟨node.agent.levels, node.history⟩

def handleLine (node : RunningNode) (now : Int64) (line : String) : List String × RunningNode :=
  let (answers, server) := node.server.handleLine now line
  (answers, ⟨{ node.agent with levels := server.levels }, server.history⟩)

/-- Takes an event of the join task; one that is not due changes nothing. -/
def submit (node : RunningNode) (event : AgentEvent) : List Attempt × RunningNode :=
  match node.agent.step? event with
  | some (agent, attempts) => (attempts, { node with agent := agent })
  | none => ([], node)

end RunningNode

abbrev SharedNode := IO.Ref RunningNode

/-! ## Requests -/

/-- Handles a request, or waits for more of one. It is done when the other side
is gone and when it has been sent the history. -/
def requestStep (shared : SharedNode) (connection : TCP.Socket.Client) (channel : Channel) :
    Async (ForInStep Channel) := do
  match channel.receiveText with
  | (.message line, channel) =>
      let now ← currentTime
      let answers ← shared.modifyGet fun node => node.handleLine now line
      if !answers.isEmpty then
        connection.send (packed (streamOf answers))
      return if Server.closesAfter line then .done channel else .yield channel
  | (.waiting, channel) =>
      match ← connection.recv? chunkSize with
      | some bytes => return .yield (channel.arrive (unpacked bytes))
      | none => return .yield channel.closeIncoming
  | (.ended, channel) | (.failed _, channel) => return .done channel

def acceptConnection (shared : SharedNode) (listener : TCP.Socket.Server) : Async Unit := do
  let connection ← listener.accept
  background do
    discard (advancing .fresh (requestStep shared connection))
    connection.shutdown

/-! ## The join task -/

/-- How the task reaches the controller and the peers. -/
structure Outlook where
  datagrams : UDP.Socket
  controller : Std.Net.SocketAddress
  /-- Where the node takes connections. -/
  port : UInt16
  settings : NodeSettings

namespace Outlook

def sendDatagram (outlook : Outlook) (datagram : Datagram) : Async Unit :=
  outlook.datagrams.send (packed (bytesOf datagram.encode)) (some outlook.controller)

/-- Waits for a snapshot until a moment of the monotonic clock. -/
def awaitSnapshot (outlook : Outlook) (deadline : Nat) : Async (Option Snapshot) :=
  advancing none fun _ => do
    let expiry ← Selector.sleep (.ofNat (deadline - (← IO.monoMsNow)))
    Selectable.one #[
      .case (outlook.datagrams.recvSelector (.ofNat datagramLimit)) fun (bytes, _) =>
        match adopt? (unpacked bytes) with
        | some snapshot => return .done (some snapshot)
        | none => return .yield none,
      .case expiry fun _ => return .done none]

/-- Asks for the membership until a snapshot arrives. -/
def requestSnapshot (outlook : Outlook) : Async (Option Snapshot) :=
  advancing none fun _ => do
    outlook.sendDatagram .hello
    let deadline := (← IO.monoMsNow) + outlook.settings.helloRetry.milliseconds
    match ← outlook.awaitSnapshot deadline with
    | some snapshot => return .done (some snapshot)
    | none => return .yield none

def share (outlook : Outlook) (peer : Endpoint) (value : UInt64) : Async (Except Fault Vote) :=
  withLimit outlook.settings.shareTimeout <| guarded do
    let connection ← request peer (.share value)
    return readVote (String.ofList peer.text) (← receiveLine connection)

/-- Makes one attempt and tells the task how it went. -/
def perform (outlook : Outlook) (shared : SharedNode) : Attempt → Async Unit
  | .share position peer value => do
      let answer ← outlook.share peer value
      discard (shared.modifyGet (·.submit (.shareEnded position answer)))
  | .notice position peer notice => do
      try discard (request peer notice) catch _ => pure ()
      discard (shared.modifyGet (·.submit (.noticeEnded position)))
  | .alive => do
      try outlook.sendDatagram (.alive outlook.port outlook.settings.operators)
      catch _ => pure ()

/-- Submits an event and makes at once all attempts that it calls for. -/
def drive (outlook : Outlook) (shared : SharedNode) (event : AgentEvent) : Async Unit := do
  let attempts ← shared.modifyGet (·.submit event)
  discard (Async.concurrentlyAll (attempts.map (outlook.perform shared)).toArray)

/-- Runs the task up to the publication of its outcome. -/
def join (outlook : Outlook) (shared : SharedNode) : Async Unit := do
  let found ← try outlook.requestSnapshot catch _ => pure none
  match found with
  | none => outlook.drive shared .requestFailed
  | some snapshot =>
      outlook.drive shared (.snapshot snapshot)
      outlook.drive shared .decide
      outlook.drive shared .publish

def heartbeat (outlook : Outlook) (shared : SharedNode) : Async Unit := do
  outlook.drive shared .tick
  pause outlook.settings.alivePeriod

end Outlook

/-! ## The command -/

/-- Joins, runs until the user interrupts, and prints the latest records. -/
def runNode (settings : NodeSettings) : Async Unit := do
  let listener ← openListener (← resolve settings.socket settings.socket.tcp)
  let datagrams ← openDatagrams (← resolve settings.socket settings.socket.udp)
  let controller ← resolve settings.controller settings.controller.udp
  let address ← listener.getSockName
  let outlook : Outlook := ⟨datagrams, controller, (endpointOf address).port, settings⟩
  let shared : SharedNode ← IO.mkRef (.start settings)
  repeatedly (acceptConnection shared listener)
  announce (CommandLine.nodeGreeting (endpointText address))
  outlook.join shared
  outlook.drive shared .proceed
  repeatedly (outlook.heartbeat shared)
  announce (CommandLine.joinText (← shared.get).agent.state)
  awaitInterrupt
  (CommandLine.nodeReport (← shared.get).server).forM (announce ·)

end ArithmeticCloud.Program
