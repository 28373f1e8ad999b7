import ArithmeticCloud.Joining.Agent
import ArithmeticCloud.Proofs.Joining.Rounds
import Mathlib.Data.List.Perm.Subperm
import Mathlib.Logic.Function.Basic

/-!
Contract: a joining node and its peers, line by line.

Owns:
- how a peer may behave towards an offered share;
- the lines that the joiner attempts to send, two for each peer;
- `Negotiation.step?`: the joiner's task takes a step, or a peer handles a line
  that the joiner has attempted to send. A share and the notice after it travel
  over connections of their own, and any line may be handled at any time;
- a share is handled before its exchange ends, if ever, unless the joiner has
  given up waiting.

Does not own: the joiner's task, which is `Agent.step?`, and what a node makes of
a line, which is `Server.handleLine`.
-/

namespace ArithmeticCloud.Joining

open Network Node Transport Wire

/-! ## Peers -/

inductive Conduct where
  /-- Serves, and answers a share with its vote. -/
  | votes
  | unreachable (reason : String)
  /-- Closes after some bytes that are no vote, or after none. -/
  | replies (stream : Bytes) (foreign : ∀ name vote, readVote name stream ≠ .ok vote)
  /-- Does not answer a share within the time that the joiner waits. -/
  | late (limit : Duration)

def Conduct.isReachable : Conduct → Bool
  | .unreachable _ => false
  | _ => true

def Conduct.isLate : Conduct → Bool
  | .late _ => true
  | _ => false

structure Peer where
  conduct : Conduct
  server : Server
  /-- The requests that were handled, oldest first. -/
  handled : List NodeRequest
  /-- What came back for the share. -/
  reply : Option Bytes

namespace Peer

/-- A peer that has heard nothing of the round. -/
def fresh (conduct : Conduct) (server : Server) : Peer := ⟨conduct, server, [], none⟩

/-- The line of a request is handled. Nobody waits for an answer to a notice. -/
def handle (peer : Peer) (now : Int64) (request : NodeRequest) : Peer :=
  let served := peer.server.handleLine now request.encode
  { peer with
    server := served.2
    handled := peer.handled ++ [request]
    reply := match request with
      | .share _ => some (streamOf served.1)
      | _ => peer.reply }

/-- How the share exchange ends, if it can end. -/
def answer? (peer : Peer) (name : String) : Option (Except Fault Vote) :=
  match peer.conduct with
  | .votes => peer.reply.map (readVote name)
  | .unreachable reason => some (.error (.transport reason))
  | .replies stream _ => some (readVote name stream)
  | .late limit => some (.error (.timeout limit))

/-- Whether the notice was not handled before the share. -/
def InOrder (peer : Peer) : Prop :=
  ∀ notice value, peer.handled ≠ [notice, .share value]

@[simp] theorem conduct_handle (peer : Peer) (now : Int64) (request : NodeRequest) :
    (peer.handle now request).conduct = peer.conduct := by
  simp only [handle]

@[simp] theorem handled_handle (peer : Peer) (now : Int64) (request : NodeRequest) :
    (peer.handle now request).handled = peer.handled ++ [request] := by
  simp only [handle]

theorem levels_handle (peer : Peer) (now : Int64) (request : NodeRequest) :
    (peer.handle now request).server.levels = peer.server.levels.handle request := by
  simp only [handle, Server.handleLine_encode, Server.levels_handle]

/-- What comes back for a share is the vote on it. -/
theorem reply_handle_share (peer : Peer) (now : Int64) (value : UInt64) :
    (peer.handle now (.share value)).reply =
      some (streamOf [(peer.server.levels.offer value).1.encode]) := by
  simp only [handle, Server.handleLine_encode]
  rfl

theorem reply_handle_of_ne {request : NodeRequest} (noShare : ∀ value, request ≠ .share value)
    (peer : Peer) (now : Int64) : (peer.handle now request).reply = peer.reply := by
  cases request with
  | share value => exact absurd rfl (noShare value)
  | _ => simp only [handle]

end Peer

/-! ## Lines -/

def Attempt.line? : Attempt → Option (Endpoint × NodeRequest)
  | .share _ peer value => some (peer, .share value)
  | .notice _ peer request => some (peer, request)
  | .alive => none

section Attempts

variable {round : JoinRound} {attempt : Attempt} {endpoint : Endpoint} {request : NodeRequest}

theorem line_of_mem_shareAttempts (member : attempt ∈ Agent.shareAttempts round)
    (line : attempt.line? = some (endpoint, request)) :
    endpoint ∈ round.peers ∧ request = .share round.proposed := by
  rcases List.mem_mapIdx.mp member with ⟨position, inside, rfl⟩
  rcases Prod.mk.inj (Option.some.inj line) with ⟨rfl, rfl⟩
  exact ⟨List.getElem_mem inside, rfl⟩

theorem line_of_mem_noticeAttempts (member : attempt ∈ Agent.noticeAttempts round)
    (line : attempt.line? = some (endpoint, request)) :
    endpoint ∈ round.peers ∧ request = round.notice := by
  rcases List.mem_mapIdx.mp member with ⟨position, inside, rfl⟩
  rcases Prod.mk.inj (Option.some.inj line) with ⟨rfl, rfl⟩
  exact ⟨List.getElem_mem inside, rfl⟩

theorem JoinRound.notice_ne_share (round : JoinRound) (value : UInt64) :
    round.notice ≠ .share value := by
  unfold notice
  split <;> simp

end Attempts

/-- A list without repetition that has nothing but two entries. -/
theorem nodup_pair_cases {α : Type} {first second : α} {entries : List α} (once : entries.Nodup)
    (within : ∀ entry ∈ entries, entry = first ∨ entry = second) :
    entries = [] ∨ entries = [first] ∨ entries = [second] ∨ entries = [first, second] ∨
      entries = [second, first] := by
  match entries with
  | [] => exact .inl rfl
  | [only] =>
      rcases within only List.mem_cons_self with rfl | rfl
      · exact .inr (.inl rfl)
      · exact .inr (.inr (.inl rfl))
  | [front, back] =>
      have different : front ≠ back := by
        rintro rfl
        exact (List.nodup_cons.mp once).1 List.mem_cons_self
      rcases within front List.mem_cons_self with rfl | rfl <;>
        rcases within back (List.mem_cons_of_mem _ List.mem_cons_self) with rfl | rfl
      · exact absurd rfl different
      · exact .inr (.inr (.inr (.inl rfl)))
      · exact .inr (.inr (.inr (.inr rfl)))
      · exact absurd rfl different
  | one :: two :: three :: others =>
      have subset : one :: two :: three :: others ⊆ [first, second] := by
        intro entry member
        simpa using within entry member
      have short := (List.Nodup.subperm once subset).length_le
      simp at short

/-! ## Steps -/

structure Negotiation where
  agent : Agent
  /-- What the joiner has attempted, oldest first. -/
  attempts : List Attempt
  peers : Endpoint → Peer

inductive NegotiationEvent where
  | adopt (snapshot : Snapshot)
  /-- A peer handles the line of an attempt at a time. -/
  | deliver (attempt : Attempt) (now : Int64)
  /-- The share exchange with the peer at a position ends. -/
  | shareEnds (position : Nat)
  | decide
  /-- The notice to the peer at a position has been sent or has failed. -/
  | noticeEnds (position : Nat)
  | publish
deriving DecidableEq, Repr

namespace Negotiation

/-- A joiner with these levels that has not adopted a snapshot yet. -/
def start (levels : Levels) (conduct : Endpoint → Conduct) (server : Endpoint → Server) :
    Negotiation :=
  ⟨⟨.requesting, levels, .pending, false⟩, [], fun endpoint =>
    .fresh (conduct endpoint) (server endpoint)⟩

def advance? (negotiation : Negotiation) (event : AgentEvent) : Option Negotiation :=
  (negotiation.agent.step? event).map fun (agent, attempts) =>
    { negotiation with agent := agent, attempts := negotiation.attempts ++ attempts }

/-- Whether the share exchange with the peer at a position goes on. -/
def isOpen (negotiation : Negotiation) (position : Nat) : Bool :=
  match negotiation.agent.stage with
  | .sharing _ unanswered => unanswered.contains position
  | _ => false

/-- A peer handles the line of a request, once. -/
def deliver? (negotiation : Negotiation) (endpoint : Endpoint) (now : Int64)
    (request : NodeRequest) : Option Negotiation :=
  let peer := negotiation.peers endpoint
  if peer.conduct.isReachable && !peer.handled.contains request then
    some { negotiation with
      peers := Function.update negotiation.peers endpoint (peer.handle now request) }
  else
    none

/-- How the share exchange with the peer at a position ends, if it can end. -/
def answer? (negotiation : Negotiation) (position : Nat) : Option (Except Fault Vote) :=
  match negotiation.agent.stage with
  | .sharing round _ =>
      round.peers[position]?.bind fun endpoint =>
        (negotiation.peers endpoint).answer? (String.ofList endpoint.text)
  | _ => none

/-- The negotiation after an event, if the event can happen. -/
def step? (negotiation : Negotiation) : NegotiationEvent → Option Negotiation
  | .adopt snapshot => negotiation.advance? (.snapshot snapshot)
  | .deliver attempt now =>
      if attempt ∈ negotiation.attempts then
        match attempt with
        | .share position endpoint value =>
            if negotiation.isOpen position || (negotiation.peers endpoint).conduct.isLate then
              negotiation.deliver? endpoint now (.share value)
            else
              none
        | .notice _ endpoint request => negotiation.deliver? endpoint now request
        | .alive => none
      else
        none
  | .shareEnds position =>
      (negotiation.answer? position).bind fun answer =>
        negotiation.advance? (.shareEnded position answer)
  | .decide => negotiation.advance? .decide
  | .noticeEnds position => negotiation.advance? (.noticeEnded position)
  | .publish => negotiation.advance? .publish

/-- Takes events in turn. Fails at an event that cannot happen. -/
def run? : Negotiation → List NegotiationEvent → Option Negotiation
  | negotiation, [] => some negotiation
  | negotiation, event :: others => (negotiation.step? event).bind fun after => after.run? others

end Negotiation

end ArithmeticCloud.Joining
