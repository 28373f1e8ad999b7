import ArithmeticCloud.Fault
import ArithmeticCloud.Node.Levels
import ArithmeticCloud.Node.Remote

/-!
Contract: one attempt of a node to join, in two phases.

Owns:
- the proposal, which is the equal share of the ceiling, and the agreement, which
  a refusal or a missed time limit ends for good. A peer that cannot be reached
  or answers something else has no say;
- the notice to every peer, a commit if all agreed and a rollback otherwise, and
  the same step on the joiner's own levels.

Does not own: the order in which peers answer, and what carries the messages.
-/

namespace ArithmeticCloud.Joining

open Network Node Transport Wire

structure JoinRound where
  peers : List Endpoint
  proposed : UInt64
  agreed : Bool
deriving DecidableEq, Repr

inductive JoinOutcome where
  | committed (share : UInt64)
  | rolledBack (share : UInt64)
deriving DecidableEq, Repr

/-- Whether an answer to an offered share ends the agreement. -/
def isVeto : Except Fault Vote → Bool
  | .ok .accept => false
  | .ok .reject => true
  | .error (.timeout _) => true
  | .error _ => false

namespace JoinRound

/-- The round of a node that accepts no less than `minimum`. -/
def ofSnapshot (snapshot : Snapshot) (minimum : UInt64) : JoinRound :=
  ⟨snapshot.peers, snapshot.proposedShare, minimum ≤ snapshot.proposedShare⟩

def hear (round : JoinRound) (answer : Except Fault Vote) : JoinRound :=
  { round with agreed := round.agreed && !isVeto answer }

def notice (round : JoinRound) : NodeRequest :=
  if round.agreed then .commit round.proposed else .rollback

/-- Settles the joiner's own levels, in which the proposal has been staged. -/
def settle (round : JoinRound) (levels : Levels) : JoinOutcome × Levels :=
  if round.agreed then
    (.committed levels.commit.committed, levels.commit)
  else
    (.rolledBack levels.rollback.committed, levels.rollback)

end JoinRound

/-- What a joiner makes of a peer's answer to an offered share. -/
def readVote (peer : String) (stream : Bytes) : Except Fault Vote :=
  readAnswer "share" peer Vote.decode? stream

/-- How a joiner talks to its peers, whose state is `σ`. -/
structure Contact (σ : Type) where
  share : σ → Endpoint → UInt64 → Except Fault Vote × σ
  tell : σ → Endpoint → NodeRequest → Except Fault Unit × σ

namespace JoinRound

variable {σ : Type}

def shareWith (contact : Contact σ) : List Endpoint → JoinRound → σ → JoinRound × σ
  | [], round, state => (round, state)
  | peer :: others, round, state =>
      let (answer, state) := contact.share state peer round.proposed
      shareWith contact others (round.hear answer) state

/-- Tells peers in turn. A peer that cannot be told is passed over. -/
def tellAll (contact : Contact σ) (notice : NodeRequest) : List Endpoint → σ → σ
  | [], state => state
  | peer :: others, state => tellAll contact notice others (contact.tell state peer notice).2

/-- Runs both phases for a joiner with these levels. -/
def run (contact : Contact σ) (round : JoinRound) (levels : Levels) (state : σ) :
    JoinOutcome × Levels × σ :=
  let (round, state) := shareWith contact round.peers round state
  let staged := levels.stage round.proposed
  let state := tellAll contact round.notice round.peers state
  let (outcome, levels) := round.settle staged
  (outcome, levels, state)

end JoinRound

/-- Talks to each peer over connections of their own. -/
def Contact.overConnections (now : Int64) : Contact Nodes where
  share nodes peer value :=
    match nodes.ask now peer (.share value) with
    | (.ok stream, nodes) => (readVote (String.ofList peer.text) stream, nodes)
    | (.error fault, nodes) => (.error fault, nodes)
  tell nodes peer request := nodes.tell now peer request

end ArithmeticCloud.Joining
