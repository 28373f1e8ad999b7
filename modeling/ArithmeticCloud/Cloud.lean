import ArithmeticCloud.Fleet.Logs
import ArithmeticCloud.Joining.Round
import ArithmeticCloud.Service.NodeLink

/-!
Contract: a controller together with its nodes.

Owns: the whole of one join attempt, from the snapshot to the first sign of life,
when nothing else happens in between; and the collection of the nodes' histories.

Does not own: attempts that overlap, which are sequences of events of the agents.
-/

namespace ArithmeticCloud

open Fleet Joining Network Node Service

/-- A controller whose link leads to these nodes. -/
abbrev Cloud := Controller Nodes

structure Newcomer where
  address : Address
  port : UInt16
  operators : OperatorSet
  /-- The least share that it accepts. -/
  minimum : UInt64
  historyCapacity : Nat
deriving DecidableEq, Repr

def Newcomer.endpoint (newcomer : Newcomer) : Endpoint :=
  .ofAddress newcomer.address newcomer.port

namespace Cloud

/-- The nodes with the newcomer among them, which an attempt left with these
levels. -/
def withNode (nodes : Nodes) (newcomer : Newcomer) (levels : Levels) : Nodes :=
  ⟨nodes.entries ++
    [(newcomer.endpoint, .serving ⟨levels, .empty newcomer.historyCapacity⟩)]⟩

/-- One attempt to join. The node takes part from then on; it is registered only
if the round committed. -/
def join (cloud : Cloud) (now : Int64) (newcomer : Newcomer) : JoinOutcome × Cloud :=
  let round := JoinRound.ofSnapshot (cloud.registry.snapshot cloud.ceiling) newcomer.minimum
  let (outcome, levels, nodes) :=
    round.run (.overConnections now) (.initial newcomer.minimum) cloud.nodes
  let cloud := { cloud with nodes := withNode nodes newcomer levels }
  match outcome with
  | .committed _ =>
      (outcome, { cloud with
        registry := cloud.registry.upsert newcomer.address newcomer.port newcomer.operators now })
  | .rolledBack _ => (outcome, cloud)

/-- The levels of the node at an endpoint. -/
def levels? (cloud : Cloud) (endpoint : Endpoint) : Option Levels :=
  (cloud.nodes.get endpoint).server?.map Server.levels

/-- Asks nodes in turn for their histories and merges what they answer. -/
def logs (cloud : Cloud) (now : Int64) (endpoints : List Endpoint) : List NodeLog :=
  collectLogs (endpoints.map fun endpoint =>
    (endpoint, (cloud.nodes.ask now endpoint .getLogs).1.bind fetchRecords))

end Cloud

end ArithmeticCloud
