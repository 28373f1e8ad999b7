import ArithmeticCloud.Proofs.Joining.Negotiation
import Mathlib

/-!
Contract: the outcome of a join round, in whatever order things happen.

Owns:
- `Setting`, all that a round depends on besides the order: the snapshot, the
  levels of everyone before the round, and the conduct of every peer;
- `Setting.Commits`, the outcome, which is fixed by the setting;
- `Setting.Fits`: how far the joiner and every peer have come;
- what a line does to a peer, and what the end of its share exchange says.

Does not own: the steps of a negotiation, and requests of other rounds.
-/

namespace ArithmeticCloud.Joining

open Network Node Transport Wire

/-! ## Answers that are no votes -/

/-- Only giving up waits is a timeout; other answers that are no votes count for
nothing. -/
theorem isVeto_readVote {name : String} {stream : Bytes}
    (foreign : ∀ vote, readVote name stream ≠ .ok vote) : isVeto (readVote name stream) = false := by
  cases read : readVote name stream with
  | ok vote => exact absurd read (foreign vote)
  | error fault =>
      cases fault with
      | timeout limit =>
          unfold readVote readAnswer Channel.receiveText at read
          split at read
          · split at read <;> cases read
          · next failed =>
              cases read
              split at failed
              · split at failed <;> simp [invalidText] at failed
              · cases failed
              · cases failed
              · next other =>
                  unfold Channel.receive at other
                  split at other <;> simp at other
          · cases read
          · cases read
      | _ => rfl

/-- Whether a peer with these levels does not stand against a share. -/
def Conduct.Agrees (levels : Levels) (share : UInt64) : Conduct → Prop
  | .votes => levels.minimum ≤ share
  | .late _ => False
  | .unreachable _ | .replies .. => True

instance (levels : Levels) (share : UInt64) : DecidablePred (Conduct.Agrees levels share)
  | .votes => inferInstanceAs (Decidable (levels.minimum ≤ share))
  | .late _ => .isFalse id
  | .unreachable _ | .replies .. => .isTrue trivial

/-! ## Settings -/

/-- What a round starts from. Nothing is staged anywhere. -/
structure Setting where
  snapshot : Snapshot
  levels : Levels
  conduct : Endpoint → Conduct
  server : Endpoint → Server
  distinct : snapshot.peers.Nodup
  settled : levels.Settled
  peersSettled : ∀ peer ∈ snapshot.peers, (server peer).levels.Settled

namespace Setting

variable (setting : Setting)

def peers : List Endpoint := setting.snapshot.peers

def share : UInt64 := setting.snapshot.proposedShare

/-- The joiner accepts the share, and no peer stands against it. -/
def Commits : Prop :=
  setting.levels.minimum ≤ setting.share ∧
  ∀ peer ∈ setting.peers,
    (setting.conduct peer).Agrees (setting.server peer).levels setting.share

instance : Decidable setting.Commits := inferInstanceAs (Decidable (_ ∧ _))

def start : Negotiation := .start setting.levels setting.conduct setting.server

def round (agreed : Bool) : JoinRound := ⟨setting.peers, setting.share, agreed⟩

def notice : NodeRequest := if setting.Commits then .commit setting.share else .rollback

def shares : List Attempt :=
  setting.peers.mapIdx fun position peer => .share position peer setting.share

/-- One notice for each peer, the same for all. -/
def notices : List Attempt :=
  setting.peers.mapIdx fun position peer => .notice position peer setting.notice

/-- The levels of the joiner after the round. -/
def outcome : Levels :=
  if setting.Commits then ⟨setting.share, setting.share, setting.levels.minimum⟩
  else setting.levels

theorem notice_round : (setting.round (decide setting.Commits)).notice = setting.notice := by
  unfold JoinRound.notice notice
  simp only [round, decide_eq_true_eq]

theorem noticeAttempts_round :
    Agent.noticeAttempts (setting.round (decide setting.Commits)) = setting.notices := by
  unfold Agent.noticeAttempts notices
  rw [notice_round]
  rfl

/-! ## The invariant -/

/-- How far the joiner has come: its stage, what it shows, its levels and what it
has attempted. -/
inductive StageFits (events : List NegotiationEvent) :
    Stage → JoinState → Levels → List Attempt → Prop where
  | sharing (agreed : Bool) (unanswered : List Nat) (distinct : unanswered.Nodup)
      (few : unanswered.length ≤ setting.peers.length)
      (inside : ∀ position ∈ unanswered, position < setting.peers.length)
      (agrees : agreed = true ↔ setting.levels.minimum ≤ setting.share ∧
        ∀ position peer, setting.peers[position]? = some peer → position ∉ unanswered →
          (setting.conduct peer).Agrees (setting.server peer).levels setting.share)
      (ended : ∀ position < setting.peers.length, position ∉ unanswered →
        .shareEnds position ∈ events) :
      StageFits events (.sharing (setting.round agreed) unanswered) .pending setting.levels
        setting.shares
  | notifying (unsent : List Nat) (few : unsent.length ≤ setting.peers.length)
      (ended : ∀ position < setting.peers.length, .shareEnds position ∈ events) :
      StageFits events (.notifying (setting.round (decide setting.Commits)) unsent) .pending
        (setting.levels.stage setting.share) (setting.shares ++ setting.notices)
  | published (ended : ∀ position < setting.peers.length, .shareEnds position ∈ events) :
      StageFits events (.published (decide setting.Commits))
        (if setting.Commits then .joined setting.share else .rejected) setting.outcome
        (setting.shares ++ setting.notices)

structure PeerFits (attempts : List Attempt) (endpoint : Endpoint) (peer : Peer) : Prop where
  conduct : peer.conduct = setting.conduct endpoint
  levels : peer.server.levels =
    peer.handled.foldl Levels.handle (setting.server endpoint).levels
  once : peer.handled.Nodup
  reachable : peer.conduct.isReachable = false → peer.handled = []
  attempted : ∀ request ∈ peer.handled, ∃ attempt ∈ attempts,
    attempt.line? = some (endpoint, request)
  reply : setting.conduct endpoint = .votes → peer.reply =
    if .share setting.share ∈ peer.handled then
      some (streamOf [((setting.server endpoint).levels.offer setting.share).1.encode])
    else none
  inOrder : (setting.conduct endpoint).isLate = false → peer.InOrder

/-- How many steps have been made. -/
def work (negotiation : Negotiation) : Nat :=
  (setting.peers.map fun peer => (negotiation.peers peer).handled.length).sum +
    match negotiation.agent.stage with
    | .sharing _ unanswered => setting.peers.length - unanswered.length
    | .notifying _ unsent => setting.peers.length + 1 + (setting.peers.length - unsent.length)
    | .published _ => 2 * setting.peers.length + 2
    | _ => 0

/-- How far everyone has come by these events since the joiner adopted its
snapshot. -/
structure Fits (events : List NegotiationEvent) (negotiation : Negotiation) : Prop where
  stage : setting.StageFits events negotiation.agent.stage negotiation.agent.state
    negotiation.agent.levels negotiation.attempts
  peers : ∀ endpoint, setting.PeerFits negotiation.attempts endpoint (negotiation.peers endpoint)
  work : events.length = setting.work negotiation

variable {setting}

/-! ## Attempts -/

theorem line_of_mem_shares {attempt : Attempt} {endpoint : Endpoint} {request : NodeRequest}
    (member : attempt ∈ setting.shares) (line : attempt.line? = some (endpoint, request)) :
    endpoint ∈ setting.peers ∧ request = .share setting.share := by
  have isShare : attempt ∈ Agent.shareAttempts (setting.round true) := member
  exact line_of_mem_shareAttempts isShare line

theorem line_of_mem_notices {attempt : Attempt} {endpoint : Endpoint} {request : NodeRequest}
    (member : attempt ∈ setting.notices) (line : attempt.line? = some (endpoint, request)) :
    endpoint ∈ setting.peers ∧ request = setting.notice := by
  rw [← noticeAttempts_round] at member
  rw [← notice_round]
  exact line_of_mem_noticeAttempts member line

theorem notice_ne_share (setting : Setting) (value : UInt64) : setting.notice ≠ .share value := by
  rw [← notice_round]
  exact JoinRound.notice_ne_share _ value

section Stages

variable {events : List NegotiationEvent} {stage : Stage} {state : JoinState} {levels : Levels}
  {attempts : List Attempt} {endpoint : Endpoint} {request : NodeRequest}

/-- The notices go out together, after all share exchanges. -/
theorem StageFits.attempts_cases (fits : setting.StageFits events stage state levels attempts) :
    attempts = setting.shares ∨
    attempts = setting.shares ++ setting.notices ∧
      ∀ position < setting.peers.length, .shareEnds position ∈ events := by
  cases fits with
  | sharing => exact .inl rfl
  | notifying unsent few ended => exact .inr ⟨rfl, ended⟩
  | published ended => exact .inr ⟨rfl, ended⟩

theorem StageFits.of_published {joined : Bool}
    (fits : setting.StageFits events (.published joined) state levels attempts) :
    joined = decide setting.Commits ∧
    state = (if setting.Commits then .joined setting.share else .rejected) ∧
    levels = setting.outcome ∧ attempts = setting.shares ++ setting.notices := by
  cases fits with
  | published => exact ⟨rfl, rfl, rfl, rfl⟩

/-- A peer is sent the share and the notice, and nothing else. -/
theorem StageFits.line (fits : setting.StageFits events stage state levels attempts)
    {attempt : Attempt} (member : attempt ∈ attempts)
    (line : attempt.line? = some (endpoint, request)) :
    endpoint ∈ setting.peers ∧ (request = .share setting.share ∨ request = setting.notice) := by
  have known : attempt ∈ setting.shares ∨ attempt ∈ setting.notices := by
    rcases fits.attempts_cases with rfl | ⟨rfl, -⟩
    · exact .inl member
    · exact List.mem_append.mp member
  rcases known with share | notice
  · rcases line_of_mem_shares share line with ⟨isPeer, same⟩
    exact ⟨isPeer, .inl same⟩
  · rcases line_of_mem_notices notice line with ⟨isPeer, same⟩
    exact ⟨isPeer, .inr same⟩

/-- A notice never carries a share. -/
theorem StageFits.notice_ne_share (fits : setting.StageFits events stage state levels attempts)
    {position : Nat} (member : .notice position endpoint request ∈ attempts) (value : UInt64) :
    request ≠ .share value := by
  have noShare : Attempt.notice position endpoint request ∉ setting.shares := by
    intro isShare
    rcases List.mem_mapIdx.mp isShare with ⟨other, inside, same⟩
    cases same
  rcases fits.attempts_cases with rfl | ⟨rfl, -⟩
  · exact absurd member noShare
  · have isNotice := (List.mem_append.mp member).resolve_left noShare
    rw [(line_of_mem_notices isNotice rfl).2]
    exact setting.notice_ne_share value

theorem StageFits.mono (fits : setting.StageFits events stage state levels attempts)
    (event : NegotiationEvent) :
    setting.StageFits (events ++ [event]) stage state levels attempts := by
  cases fits with
  | sharing agreed unanswered distinct few inside agrees ended =>
      exact .sharing agreed unanswered distinct few inside agrees fun position below answered =>
        List.mem_append_left _ (ended position below answered)
  | notifying unsent few ended =>
      exact .notifying unsent few fun position below =>
        List.mem_append_left _ (ended position below)
  | published ended =>
      exact .published fun position below => List.mem_append_left _ (ended position below)

end Stages

/-! ## Peers -/

section Peers

variable {attempts : List Attempt} {endpoint : Endpoint} {peer : Peer}

theorem PeerFits.fresh (setting : Setting) (attempts : List Attempt) (endpoint : Endpoint) :
    setting.PeerFits attempts endpoint
      (.fresh (setting.conduct endpoint) (setting.server endpoint)) where
  conduct := rfl
  levels := rfl
  once := List.nodup_nil
  reachable := fun _ => rfl
  attempted := fun _ member => nomatch member
  reply := fun _ => rfl
  inOrder := fun _ _ _ same => nomatch same

theorem PeerFits.mono (fits : setting.PeerFits attempts endpoint peer) (more : List Attempt) :
    setting.PeerFits (attempts ++ more) endpoint peer :=
  { fits with
    attempted := by
      intro request handled
      rcases fits.attempted request handled with ⟨attempt, member, line⟩
      exact ⟨attempt, List.mem_append_left more member, line⟩ }

/-- A line is handled. Only a late peer may have handled something before the share. -/
theorem PeerFits.handle (fits : setting.PeerFits attempts endpoint peer) (now : Int64)
    {request : NodeRequest} (reachable : peer.conduct.isReachable = true)
    (new : request ∉ peer.handled)
    (attempted : ∃ attempt ∈ attempts, attempt.line? = some (endpoint, request))
    (first : ∀ value, request = .share value → (setting.conduct endpoint).isLate = false →
      value = setting.share ∧ peer.handled = []) :
    setting.PeerFits attempts endpoint (peer.handle now request) := by
  have handled := peer.handled_handle now request
  refine ⟨?_, ?_, ?_, ?_, ?_, ?_, ?_⟩
  · rw [Peer.conduct_handle]
    exact fits.conduct
  · rw [Peer.levels_handle, handled, fits.levels, List.foldl_append]
    rfl
  · rw [handled]
    refine List.nodup_append.mpr ⟨fits.once, List.nodup_singleton request, ?_⟩
    intro earlier member last isLast same
    rw [List.mem_singleton] at isLast
    exact new (isLast ▸ same ▸ member)
  · intro unreachable
    rw [Peer.conduct_handle, reachable] at unreachable
    cases unreachable
  · intro other member
    rw [handled] at member
    rcases List.mem_append.mp member with earlier | last
    · exact fits.attempted other earlier
    · rw [List.mem_singleton.mp last]
      exact attempted
  · intro votes
    rw [handled]
    by_cases isShare : ∃ value, request = .share value
    · rcases isShare with ⟨value, rfl⟩
      rcases first value rfl (votes ▸ rfl) with ⟨rfl, nothing⟩
      have before := fits.levels
      rw [nothing, List.foldl_nil] at before
      rw [Peer.reply_handle_share, before, if_pos (by simp)]
    · have noShare : ∀ value, request ≠ .share value := fun value same => isShare ⟨value, same⟩
      have same : NodeRequest.share setting.share ∈ peer.handled ++ [request] ↔
          NodeRequest.share setting.share ∈ peer.handled := by
        simp [(noShare setting.share).symm]
      simp only [Peer.reply_handle_of_ne noShare, fits.reply votes, same]
  · intro punctual notice value swapped
    have parts : peer.handled ++ [request] = [notice] ++ [.share value] := handled ▸ swapped
    rcases List.append_inj' parts rfl with ⟨onlyNotice, isShare⟩
    rw [(first value (List.singleton_inj.mp isShare) punctual).2] at onlyNotice
    cases onlyNotice

/-- The end of a share exchange speaks for the peer. -/
theorem PeerFits.isVeto_answer (fits : setting.PeerFits attempts endpoint peer) {name : String}
    {answer : Except Fault Vote} (ends : peer.answer? name = some answer) :
    isVeto answer = false ↔
      (setting.conduct endpoint).Agrees (setting.server endpoint).levels setting.share := by
  unfold Peer.answer? at ends
  rw [fits.conduct] at ends
  cases conduct : setting.conduct endpoint with
  | votes =>
      rw [conduct] at ends
      rcases Option.map_eq_some_iff.mp ends with ⟨bytes, replied, rfl⟩
      rw [fits.reply conduct] at replied
      split at replied
      · obtain rfl := Option.some.inj replied
        rw [readVote_encode, isVeto_offer]
        simp [Conduct.Agrees]
      · cases replied
  | unreachable reason =>
      rw [conduct] at ends
      obtain rfl := Option.some.inj ends
      exact ⟨fun _ => trivial, fun _ => rfl⟩
  | replies stream foreign =>
      rw [conduct] at ends
      obtain rfl := Option.some.inj ends
      exact ⟨fun _ => trivial, fun _ => isVeto_readVote (foreign name)⟩
  | late limit =>
      rw [conduct] at ends
      obtain rfl := Option.some.inj ends
      exact ⟨(fun agrees => nomatch agrees), False.elim⟩

/-- Only a vote has to be waited for. -/
theorem PeerFits.exists_answer (fits : setting.PeerFits attempts endpoint peer) (name : String)
    (heard : setting.conduct endpoint = .votes → .share setting.share ∈ peer.handled) :
    ∃ answer, peer.answer? name = some answer := by
  unfold Peer.answer?
  rw [fits.conduct]
  cases conduct : setting.conduct endpoint with
  | votes =>
      rw [fits.reply conduct, if_pos (heard conduct)]
      exact ⟨_, rfl⟩
  | unreachable reason => exact ⟨_, rfl⟩
  | replies stream foreign => exact ⟨_, rfl⟩
  | late limit => exact ⟨_, rfl⟩

end Peers

end Setting

end ArithmeticCloud.Joining
