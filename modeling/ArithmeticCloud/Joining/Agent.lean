import ArithmeticCloud.Joining.Round

/-!
Contract: the join task of a node, event by event.

Owns: the stages of the task from the first `hello` to the heartbeat, which
events each stage allows and what is attempted in answer. A stop is heeded before
a share is out and after the outcome is known; in between, peers hold a staged
value and the round runs to its end.

Does not own: when events happen. Requests that other connections bring may be
handled between any two events of the task.
-/

namespace ArithmeticCloud.Joining

open Network Node Wire

/-- What a node shows about its attempt to join. -/
inductive JoinState where
  | pending
  | joined (share : UInt64)
  | rejected
deriving DecidableEq, Repr

inductive Stage where
  /-- Asks for the membership. -/
  | requesting
  /-- Shares are out to the peers at the open positions. -/
  | sharing (round : JoinRound) (unanswered : List Nat)
  /-- Notices are out to the peers at the open positions. -/
  | notifying (round : JoinRound) (unsent : List Nat)
  | published (joined : Bool)
  | heartbeating
  | ended
deriving DecidableEq, Repr

structure Agent where
  stage : Stage
  levels : Levels
  state : JoinState
  stopping : Bool
deriving DecidableEq, Repr

inductive AgentEvent where
  | stop
  /-- The task notices a stop while it waits. -/
  | quit
  | snapshot (snapshot : Snapshot)
  /-- The socket fails while the task waits for a snapshot. -/
  | requestFailed
  /-- The share exchange with the peer at a position ends. -/
  | shareEnded (position : Nat) (answer : Except Fault Vote)
  | decide
  /-- The notice to the peer at a position has been sent or has failed. -/
  | noticeEnded (position : Nat)
  | publish
  /-- The task goes on after its outcome is published. -/
  | proceed
  | tick
  /-- The node's listener handles a request of another connection. -/
  | request (request : NodeRequest)
deriving Repr

/-- What the task attempts in answer to an event. -/
inductive Attempt where
  | share (position : Nat) (peer : Endpoint) (value : UInt64)
  | notice (position : Nat) (peer : Endpoint) (request : NodeRequest)
  | alive
deriving DecidableEq, Repr

namespace Agent

def start (minimum : UInt64) : Agent := ⟨.requesting, .initial minimum, .pending, false⟩

def shareAttempts (round : JoinRound) : List Attempt :=
  round.peers.mapIdx fun position peer => .share position peer round.proposed

def noticeAttempts (round : JoinRound) : List Attempt :=
  round.peers.mapIdx fun position peer => .notice position peer round.notice

/-- The agent after an event and what it attempts, if its stage allows the event. -/
def step? (agent : Agent) : AgentEvent → Option (Agent × List Attempt)
  | .stop => some ({ agent with stopping := true }, [])
  | .request request => some ({ agent with levels := agent.levels.handle request }, [])
  | .quit =>
      match agent.stage with
      | .requesting | .heartbeating =>
          if agent.stopping then some ({ agent with stage := .ended }, []) else none
      | _ => none
  | .snapshot snapshot =>
      match agent.stage with
      | .requesting =>
          let round := JoinRound.ofSnapshot snapshot agent.levels.minimum
          some ({ agent with stage := .sharing round (List.range round.peers.length) },
            shareAttempts round)
      | _ => none
  | .requestFailed =>
      match agent.stage with
      | .requesting => some ({ agent with stage := .ended, state := .rejected }, [])
      | _ => none
  | .shareEnded position answer =>
      match agent.stage with
      | .sharing round unanswered =>
          if position ∈ unanswered then
            some ({ agent with
              stage := .sharing (round.hear answer) (unanswered.erase position) }, [])
          else
            none
      | _ => none
  | .decide =>
      match agent.stage with
      | .sharing round [] =>
          some ({ agent with
            levels := agent.levels.stage round.proposed
            stage := .notifying round (List.range round.peers.length) },
            noticeAttempts round)
      | _ => none
  | .noticeEnded position =>
      match agent.stage with
      | .notifying round unsent =>
          if position ∈ unsent then
            some ({ agent with stage := .notifying round (unsent.erase position) }, [])
          else
            none
      | _ => none
  | .publish =>
      match agent.stage with
      | .notifying round [] =>
          match round.settle agent.levels with
          | (.committed share, levels) =>
              some ({ agent with
                stage := .published true, state := .joined share, levels := levels }, [])
          | (.rolledBack _, levels) =>
              some ({ agent with
                stage := .published false, state := .rejected, levels := levels }, [])
      | _ => none
  | .proceed =>
      match agent.stage with
      | .published joined =>
          some ({ agent with
            stage := if joined && !agent.stopping then .heartbeating else .ended }, [])
      | _ => none
  | .tick =>
      match agent.stage with
      | .heartbeating => some (agent, [.alive])
      | _ => none

/-- Takes events in turn; gives all attempts in order. Fails at an event that the
stage does not allow. -/
def run? : Agent → List AgentEvent → Option (Agent × List Attempt)
  | agent, [] => some (agent, [])
  | agent, event :: others => do
      let (agent, attempts) ← agent.step? event
      let (agent, later) ← run? agent others
      return (agent, attempts ++ later)

end Agent

end ArithmeticCloud.Joining
