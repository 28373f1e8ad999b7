import ArithmeticCloud.CommandLine
import ArithmeticCloud.Program.Sockets
import ArithmeticCloud.Service.NodeLink
import Std.Sync.Semaphore

/-!
Contract: a controller that runs on this machine.

Owns: the listener for datagrams, the periodic check of the nodes, one task for
each client, and the exchanges with nodes that a session's queries ask for.

Does not own: the answer to any query, which is the pure controller's.
-/

namespace ArithmeticCloud.Program

open Fleet Network Service Settings Transport Wire
open Std.Async

/-- The controller's state, which every task changes in single steps. The nodes
are out on the network. -/
abbrev SharedController := IO.Ref (Controller Unit)

/-! ## Queries -/

def compute (node : Endpoint) (left : Int64) (operator : Operator) (right : Int64) :
    Async (Except Fault Reply) :=
  guarded do
    let connection ← request node (.compute left operator right)
    return readReply (String.ofList node.text) (← receiveLine connection)

def answer (shared : SharedController) : (query : Query) → Async (Except Fault query.Answer)
  | .compute node left operator right => do
      return .ok (← compute node left operator right)
  | query => shared.modifyGet fun controller => controller.answer .inPlace query

/-- Runs a process. Other tasks may come in between any two of its queries. -/
def perform {α : Type} (shared : SharedController) : Process α → Async (Except Fault α)
  | .done result => return .ok result
  | .ask query next => do
      match ← answer shared query with
      | .ok found => perform shared (next found)
      | .error fault => return .error fault

/-! ## Clients -/

/-- What a task knows about its client. -/
structure Connected where
  channel : Channel
  session : Session

/-- Handles a request, or waits for more of one. It is done when a query or the
connection fails and when the client is gone. -/
def serveStep (shared : SharedController) (client : TCP.Socket.Client) (state : Connected) :
    Async (ForInStep Connected) := do
  match state.channel.receiveText with
  | (.message line, channel) =>
      match ← perform shared (state.session.handle line) with
      | .error _ => return .done state
      | .ok (response, session) =>
          let (sent, channel) := channel.sendText response.text
          let (bytes, channel) := channel.drain
          try
            client.send (packed bytes)
            match sent with
            | .ok () => return .yield ⟨channel, session⟩
            | .error _ => return .done ⟨channel, session⟩
          catch _ => return .done ⟨channel, session⟩
  | (.waiting, channel) =>
      try
        match ← client.recv? chunkSize with
        | some bytes => return .yield { state with channel := channel.arrive (unpacked bytes) }
        | none => return .yield { state with channel := channel.closeIncoming }
      catch _ => return .done state
  | (.ended, _) | (.failed _, _) => return .done state

/-- Serves a client and logs it out at the end. -/
def serveClient (shared : SharedController) (client : TCP.Socket.Client) : Async Unit := do
  let left ← advancing ⟨.fresh, .anonymous⟩ (serveStep shared client)
  discard (perform shared left.session.leave)
  try client.shutdown catch _ => pure ()

/-- Takes one client, once there is a place for it. -/
def acceptClient (shared : SharedController) (listener : TCP.Socket.Server)
    (places : Std.Semaphore) : Async Unit := do
  await (← places.acquire)
  try
    let client ← listener.accept
    background do
      try serveClient shared client finally places.release
  catch _ => places.release

/-! ## Nodes -/

def answerDatagram (shared : SharedController) (datagrams : UDP.Socket) : Async Unit := do
  let (bytes, source) ← datagrams.recv (.ofNat datagramLimit)
  if let some source := source then
    let now ← currentTime
    let reply ← shared.modifyGet fun controller =>
      controller.receiveDatagram now (endpointOf source).address (unpacked bytes)
    if let some datagram := reply then
      datagrams.send (packed (bytesOf datagram.encode)) (some source)

def checkNodes (shared : SharedController) (settings : ControllerSettings) : Async Unit := do
  let now ← currentTime
  shared.modify fun controller =>
    (controller.askRegistry fun registry => registry.checkLiveness settings.nodeTimeout now).2
  pause settings.checkPeriod

def fetchLogs (node : Endpoint) : Async (Endpoint × Except Fault (List Node.ComputeRecord)) := do
  let answer ← guarded do
    let connection ← request node .getLogs
    return fetchRecords (← receiveAll connection)
  return (node, answer)

/-! ## The command -/

/-- Runs until the user interrupts; then prints the state and the logs. -/
def runController (settings : ControllerSettings) : Async Unit := do
  let datagrams ← openDatagrams (← resolve settings.socket settings.socket.udp)
  let listener ← openListener (← resolve settings.socket settings.socket.tcp)
  let shared : SharedController ← IO.mkRef (.start settings.ceiling settings.users ())
  let places ← Std.Semaphore.new settings.maxSessions.toNat
  repeatedly (answerDatagram shared datagrams)
  repeatedly (checkNodes shared settings)
  repeatedly (acceptClient shared listener places)
  announce (CommandLine.controllerGreeting (endpointText (← datagrams.getSockName))
    (endpointText (← listener.getSockName)))
  awaitInterrupt
  let controller ← shared.get
  let answers ← Async.concurrentlyAll (controller.registry.onlineEndpoints.map fetchLogs).toArray
  (CommandLine.controllerReport controller (collectLogs answers.toList)).forM (announce ·)

end ArithmeticCloud.Program
