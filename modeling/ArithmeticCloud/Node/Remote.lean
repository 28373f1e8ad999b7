import ArithmeticCloud.Fault
import ArithmeticCloud.Node.Server
import ArithmeticCloud.Transport.Exchange

/-!
Contract: nodes as those who connect to them see them.

Owns: how a node behaves on a connection, asking it something and telling it
something, and a collection of nodes by endpoint. An endpoint where no node is
known cannot be reached.

Does not own: what is asked.
-/

namespace ArithmeticCloud.Node

open Network Transport Wire

inductive Remote where
  | serving (server : Server)
  /-- Answers everything with these bytes and closes. -/
  | answering (stream : Bytes)
  /-- Takes connections and does not answer within the time that the other side
  waits. -/
  | silent (limit : Duration)
  | unreachable
deriving DecidableEq, Repr

namespace Remote

def refusal : Fault := .transport "connection refused"

/-- Sends a line over a fresh connection; gives what comes back. -/
def ask (now : Int64) (line : String) : Remote → Except Fault Bytes × Remote
  | .serving server =>
      let (answers, server) := server.handleLine now line
      (.ok (streamOf answers), .serving server)
  | .answering stream => (.ok stream, .answering stream)
  | .silent limit => (.error (.timeout limit), .silent limit)
  | .unreachable => (.error refusal, .unreachable)

/-- Sends a line over a fresh connection and waits for nothing. -/
def tell (now : Int64) (line : String) : Remote → Except Fault Unit × Remote
  | .serving server => (.ok (), .serving (server.handleLine now line).2)
  | .unreachable => (.error refusal, .unreachable)
  | other => (.ok (), other)

def server? : Remote → Option Server
  | .serving server => some server
  | _ => none

end Remote

/-- Nodes by endpoint; the first entry for an endpoint counts. -/
structure Nodes where
  entries : List (Endpoint × Remote)
deriving DecidableEq, Repr

namespace Nodes

def get (nodes : Nodes) (endpoint : Endpoint) : Remote :=
  (nodes.entries.lookup endpoint).getD .unreachable

/-- Replaces the node at an endpoint, if there is one. -/
def set (nodes : Nodes) (endpoint : Endpoint) (remote : Remote) : Nodes :=
  ⟨nodes.entries.map fun entry => if entry.1 = endpoint then (endpoint, remote) else entry⟩

def ask (nodes : Nodes) (now : Int64) (endpoint : Endpoint) (request : NodeRequest) :
    Except Fault Bytes × Nodes :=
  let (answer, remote) := (nodes.get endpoint).ask now request.encode
  (answer, nodes.set endpoint remote)

def tell (nodes : Nodes) (now : Int64) (endpoint : Endpoint) (request : NodeRequest) :
    Except Fault Unit × Nodes :=
  let (answer, remote) := (nodes.get endpoint).tell now request.encode
  (answer, nodes.set endpoint remote)

end Nodes

end ArithmeticCloud.Node
