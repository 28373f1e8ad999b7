import ArithmeticCloud.Node.History
import ArithmeticCloud.Node.Levels
import ArithmeticCloud.Transport.Line

/-!
Contract: how a node serves a connection.

Owns: the effect of one request on the levels and the history, the lines it is
answered with, and the whole conversation over one connection. A line that is no
request is ignored; a line that is not text, a request for the history, and the
end of the stream end the conversation.

Does not own: accepting connections. Requests of several connections may come in
any order.
-/

namespace ArithmeticCloud.Node

open Transport Wire

/-- The state that all connections of a node share. -/
structure Server where
  levels : Levels
  history : History
deriving DecidableEq, Repr

namespace Server

def initial (minimum : UInt64) (historyCapacity : Nat) : Server :=
  ⟨.initial minimum, .empty historyCapacity⟩

def compute (server : Server) (now left : Int64) (operator : Operator) (right : Int64) :
    Reply × Server :=
  let result := operator.apply left right
  (result, { server with history := server.history.push ⟨now, left, operator, right, result⟩ })

/-- The lines that answer a request, and the node after it. -/
def handle (server : Server) (now : Int64) : NodeRequest → List String × Server
  | .share value =>
      let (vote, levels) := server.levels.offer value
      ([vote.encode], { server with levels := levels })
  | .commit _ => ([], { server with levels := server.levels.commit })
  | .rollback => ([], { server with levels := server.levels.rollback })
  | .compute left operator right =>
      let (result, server) := server.compute now left operator right
      ([String.ofList result.text], server)
  | .getLogs => (server.history.records.map fun record => String.ofList record.text, server)

/-- Requests act on the levels as they act on levels alone. -/
theorem levels_handle (server : Server) (now : Int64) (request : NodeRequest) :
    (server.handle now request).2.levels = server.levels.handle request := by
  cases request <;> rfl

/-- Handles a line; a line that is no request changes nothing. -/
def handleLine (server : Server) (now : Int64) (line : String) : List String × Server :=
  match NodeRequest.decode? line with
  | some request => server.handle now request
  | none => ([], server)

/-- Whether the node closes the connection after a line. -/
def closesAfter (line : String) : Bool := NodeRequest.decode? line == some .getLogs

/-- Serves the messages of one connection in turn. -/
def serve (now : Int64) : Server → List Bytes → List String × Server
  | server, [] => ([], server)
  | server, message :: others =>
      match text? message with
      | none => ([], server)
      | some line =>
          let (answers, server) := server.handleLine now line
          if closesAfter line then
            (answers, server)
          else
            let (rest, server) := serve now server others
            (answers ++ rest, server)

/-- Serves a connection on which these bytes arrive before the other side closes
its sending half. -/
def serveStream (server : Server) (now : Int64) (stream : Bytes) : List String × Server :=
  serve now server (messages stream)

end Server

end ArithmeticCloud.Node
