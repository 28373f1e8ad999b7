import ArithmeticCloud.Node.Remote
import ArithmeticCloud.Service.Controller

/-!
Contract: links from the controller to nodes.

Owns: the link that opens a connection for every sub-operation, and the link that
computes in place.

Does not own: the nodes.
-/

namespace ArithmeticCloud.Service

open Network Node Transport Wire

/-- What the controller makes of a node's answer to a sub-operation. -/
def readReply (node : String) (stream : Bytes) : Except Fault Reply :=
  readAnswer "compute" node (fun line => Reply.parse? line.toList) stream

/-- Hands a sub-operation to a node over a connection of its own. -/
def Link.overConnections (now : Int64) : Link Nodes where
  compute nodes node left operator right :=
    match nodes.ask now node (.compute left operator right) with
    | (.ok stream, nodes) => (readReply (String.ofList node.text) stream, nodes)
    | (.error fault, nodes) => (.error fault, nodes)

/-- Computes without a node. -/
def Link.inPlace {σ : Type} : Link σ where
  compute state _ left operator right := (.ok (operator.apply left right), state)

end ArithmeticCloud.Service
