import ArithmeticCloud.Fault
import ArithmeticCloud.Network.AddressText
import ArithmeticCloud.Node.History
import ArithmeticCloud.Transport.Channel

/-!
Contract: the merged history of several nodes.

Owns: reading one node's records from what it sends, and the merge, which is
ordered by time. Records of one time stay in the order of the nodes, then in the
node's own order. A node that cannot be reached or sends a line that is no
record contributes nothing.

Does not own: connections.
-/

namespace ArithmeticCloud.Fleet

open Network Node Transport

/-- A record with the node that made it. -/
structure NodeLog where
  node : Endpoint
  record : ComputeRecord
deriving DecidableEq, Repr

/-- `timestamp [node]: a operator b = result`, for any text that names the node. -/
def NodeLog.textAt (record : ComputeRecord) (node : List Char) : List Char :=
  Text.ofInt64 record.timestamp ++ ' ' :: '[' :: node ++ ']' :: ':' :: ' ' :: record.untimedText

def NodeLog.text (log : NodeLog) : List Char := textAt log.record log.node.text

/-- Reads the lines of a history up to the end of the stream. -/
def readRecords : List Bytes → Except Fault (List ComputeRecord)
  | [] => .ok []
  | message :: others =>
      match text? message with
      | none => .error invalidText
      | some line =>
          match ComputeRecord.parse? line.toList with
          | none => .error (.protocol ("unexpected log record `" ++ line ++ "`"))
          | some record => (readRecords others).map (record :: ·)

/-- The records that a node sends before it closes the connection. -/
def fetchRecords (stream : Bytes) : Except Fault (List ComputeRecord) :=
  readRecords (messages stream)

/-- What one node contributes. -/
def contribution (node : Endpoint) : Except Fault (List ComputeRecord) → List NodeLog
  | .ok records => records.map (⟨node, ·⟩)
  | .error _ => []

/-- Merges what the nodes answered, oldest first. -/
def collectLogs (answers : List (Endpoint × Except Fault (List ComputeRecord))) :
    List NodeLog :=
  (answers.flatMap fun (node, answer) => contribution node answer).mergeSort
    fun left right => left.record.timestamp ≤ right.record.timestamp

end ArithmeticCloud.Fleet
