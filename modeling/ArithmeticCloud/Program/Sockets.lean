import ArithmeticCloud.Network.Socket
import ArithmeticCloud.Transport.Exchange
import ArithmeticCloud.Wire.Protocol
import Std.Async.DNS
import Std.Async.Signal
import Std.Async.TCP
import Std.Async.Timer
import Std.Async.UDP

/-!
Contract: the sockets, the clock, the tasks and the terminal of this machine.

Owns: addresses as the operating system takes them, the lookup of names,
listening, and requests to a node over a connection of their own.

Does not own: any decision. What is said and what it means is left to the pure
modules.
-/

namespace ArithmeticCloud.Program

open Network Transport Wire
open Std.Async
open Std.Net (IPAddr SocketAddress)

/-! ## Time, tasks and the terminal -/

def currentTime : IO Int64 := do
  let now ← Std.Time.Timestamp.now
  return .ofInt now.toMillisecondsSinceUnixEpoch.toInt

def pause (duration : Duration) : Async Unit := sleep (.ofNat duration.milliseconds)

/-- Lets a step carry a state along until the step is done. -/
def advancing {α : Type} (state : α) (step : α → Async (ForInStep α)) : Async α :=
  EAsync.forIn state fun _ state => step state

/-- Does something again and again in the background, whether it succeeds or
fails. -/
def repeatedly (action : Async Unit) : Async Unit :=
  background <| advancing () fun _ => do
    try action catch _ => pure ()
    return .yield ()

def awaitInterrupt : Async Unit := do
  let waiter ← Signal.Waiter.mk .sigint false
  discard (await (← waiter.wait))

def announce (line : String) : IO Unit := do
  IO.println line
  (← IO.getStdout).flush

/-! ## Faults -/

def faultOf (error : IO.Error) : Fault := .transport (toString error)

/-- Turns the failure of a socket into a fault. -/
def guarded {α : Type} (action : Async (Except Fault α)) : Async (Except Fault α) :=
  try action catch error => return .error (faultOf error)

/-- Gives up after a time limit, if there is one. -/
def withLimit {α : Type} (limit : Option Duration) (action : Async (Except Fault α)) :
    Async (Except Fault α) :=
  match limit with
  | none => action
  | some limit =>
      let expiry : Async (Except Fault α) := do
        sleep (.ofNat limit.milliseconds)
        return .error (.timeout limit)
      Async.raceAll #[action, expiry]

/-! ## Addresses -/

/-- The zone of a version 6 endpoint is left to the operating system. -/
def socketAddress : Endpoint → SocketAddress
  | .v4 ⟨first, second, third, fourth⟩ port => .v4 ⟨.ofParts first second third fourth, port⟩
  | .v6 address port _ => .v6 ⟨⟨⟨address.groups.toArray, by simp [address.size_eq]⟩⟩, port⟩

def endpointOf : SocketAddress → Endpoint
  | .v4 ⟨⟨octets⟩, port⟩ => .v4 ⟨octets[0], octets[1], octets[2], octets[3]⟩ port
  | .v6 ⟨⟨segments⟩, port⟩ => .v6 ⟨segments.toList, by simp⟩ port 0

/-- Where a socket is for a port. Of a name, the first version 4 address counts. -/
def resolve (socket : Socket) (port : UInt16) : Async SocketAddress :=
  match socket.host with
  | .at address => return socketAddress (.ofAddress address port)
  | .named name => do
      let found ← DNS.getAddrInfo name "" (some .ipv4)
      match found.toList with
      | .v4 address :: _ => return .v4 ⟨address, port⟩
      | _ => throw (IO.userError s!"No resolution for {socket.text}")

/-! ## Listening -/

def backlog : UInt32 := 1024

def openDatagrams (address : SocketAddress) : IO UDP.Socket := do
  let socket ← UDP.Socket.mk
  socket.bind address
  return socket

def openListener (address : SocketAddress) : IO TCP.Socket.Server := do
  let listener ← TCP.Socket.Server.mk
  listener.bind address
  listener.listen backlog
  return listener

def endpointText (address : SocketAddress) : String := String.ofList (endpointOf address).text

/-! ## Connections -/

def chunkSize : UInt64 := 8192

def packed (bytes : Bytes) : ByteArray := ⟨bytes.toArray⟩

def unpacked (bytes : ByteArray) : Bytes := bytes.data.toList

def request (node : Endpoint) (request : NodeRequest) : Async TCP.Socket.Client := do
  let connection ← TCP.Socket.Client.mk
  connection.connect (socketAddress node)
  connection.send (packed (streamOf [request.encode]))
  return connection

/-- Receives until there is enough or the other side has closed. -/
def receiveUntil (isEnough : Bytes → Bool) (connection : TCP.Socket.Client) : Async Bytes :=
  advancing [] fun received => do
    if isEnough received then
      return .done received
    else
      match ← connection.recv? chunkSize with
      | some bytes => return .yield (received ++ unpacked bytes)
      | none => return .done received

def receiveLine : TCP.Socket.Client → Async Bytes := receiveUntil fun received =>
  received.contains lineFeed

def receiveAll : TCP.Socket.Client → Async Bytes := receiveUntil fun _ => false

end ArithmeticCloud.Program
