import ArithmeticCloud.Proofs.Joining.Negotiation
import Mathlib.Data.List.Nodup

/-!
Contract: what holds of one negotiation even while other rounds change its peers.

Owns:
- `Negotiation.Coherent`: the joiner has attempted what its stage says, it agrees
  only if the peers heard so far consent, and what a peer has handled was attempted;
- that every step keeps it, from the adoption of a snapshot on;
- what a step does to a peer, and that it takes back nothing that was attempted.

Does not own: the levels of peers, to which other rounds contribute.
-/

namespace ArithmeticCloud.Joining

open Network Node Transport Wire

/-- The round over a snapshot, with a joiner that agrees or does not. -/
def JoinRound.over (snapshot : Snapshot) (agreed : Bool) : JoinRound :=
  ⟨snapshot.peers, snapshot.proposedShare, agreed⟩

/-! ## Peers -/

namespace Peer

/-- Whether a peer does not stand against a share: one that votes has handled it and
accepts it. -/
def Consents (minimum share : UInt64) (peer : Peer) : Prop :=
  match peer.conduct with
  | .votes => .share share ∈ peer.handled ∧ minimum ≤ share
  | .late _ => False
  | .unreachable _ | .replies .. => True

/-- What holds of a peer in a round with this share. -/
structure Coherent (minimum share : UInt64) (attempts : List Attempt) (endpoint : Endpoint)
    (peer : Peer) : Prop where
  least : peer.server.levels.minimum = minimum
  once : peer.handled.Nodup
  attempted : ∀ request ∈ peer.handled, ∃ attempt ∈ attempts,
    attempt.line? = some (endpoint, request)
  reply : ∀ bytes, peer.reply = some bytes → .share share ∈ peer.handled ∧
    ∃ levels : Levels, levels.minimum = minimum ∧
      bytes = streamOf [(levels.offer share).1.encode]
  inOrder : peer.conduct.isLate = false → peer.InOrder

variable {minimum share : UInt64} {attempts : List Attempt} {endpoint : Endpoint} {peer : Peer}

theorem Consents.handle (consents : peer.Consents minimum share) (now : Int64)
    (request : NodeRequest) : (peer.handle now request).Consents minimum share := by
  unfold Consents at consents ⊢
  rw [conduct_handle, handled_handle]
  cases conduct : peer.conduct with
  | votes =>
      rw [conduct] at consents
      exact ⟨List.mem_append_left _ consents.1, consents.2⟩
  | late limit =>
      rw [conduct] at consents
      exact consents
  | unreachable reason => trivial
  | replies stream foreign => trivial

theorem Coherent.mono (coherent : peer.Coherent minimum share attempts endpoint)
    (more : List Attempt) : peer.Coherent minimum share (attempts ++ more) endpoint :=
  { coherent with
    attempted := by
      intro request handled
      rcases coherent.attempted request handled with ⟨attempt, member, line⟩
      exact ⟨attempt, List.mem_append_left more member, line⟩ }

/-- Only a late peer may have handled something before the share. -/
theorem Coherent.handle (coherent : peer.Coherent minimum share attempts endpoint) (now : Int64)
    {request : NodeRequest} (new : request ∉ peer.handled)
    (attempted : ∃ attempt ∈ attempts, attempt.line? = some (endpoint, request))
    (first : ∀ value, request = .share value → value = share ∧
      (peer.conduct.isLate = false → peer.handled = [])) :
    (peer.handle now request).Coherent minimum share attempts endpoint := by
  have handled := peer.handled_handle now request
  refine ⟨?_, ?_, ?_, ?_, ?_⟩
  · rw [levels_handle, Levels.minimum_handle]
    exact coherent.least
  · rw [handled, ← List.concat_eq_append]
    exact coherent.once.concat new
  · intro other member
    rw [handled] at member
    rcases List.mem_append.mp member with earlier | last
    · exact coherent.attempted other earlier
    · rw [List.mem_singleton.mp last]
      exact attempted
  · intro bytes replied
    rw [handled]
    by_cases isShare : ∃ value, request = .share value
    · rcases isShare with ⟨value, rfl⟩
      obtain rfl := (first value rfl).1
      rw [reply_handle_share] at replied
      exact ⟨List.mem_append_right _ (List.mem_singleton_self _), peer.server.levels,
        coherent.least, (Option.some.inj replied).symm⟩
    · have noShare : ∀ value, request ≠ .share value := fun value same => isShare ⟨value, same⟩
      rw [reply_handle_of_ne noShare] at replied
      rcases coherent.reply bytes replied with ⟨shared, vote⟩
      exact ⟨List.mem_append_left _ shared, vote⟩
  · intro punctual notice value swapped
    rw [conduct_handle] at punctual
    have parts : peer.handled ++ [request] = [notice] ++ [.share value] := handled ▸ swapped
    rcases List.append_inj' parts rfl with ⟨onlyNotice, isShare⟩
    rw [(first value (List.singleton_inj.mp isShare)).2 punctual] at onlyNotice
    cases onlyNotice

/-- An exchange that ends without a veto speaks for the peer. -/
theorem Coherent.consents_of_answer (coherent : peer.Coherent minimum share attempts endpoint)
    {name : String} {answer : Except Fault Vote} (ends : peer.answer? name = some answer)
    (noVeto : isVeto answer = false) : peer.Consents minimum share := by
  unfold answer? at ends
  unfold Consents
  cases conduct : peer.conduct with
  | votes =>
      rw [conduct] at ends
      rcases Option.map_eq_some_iff.mp ends with ⟨bytes, replied, rfl⟩
      rcases coherent.reply bytes replied with ⟨shared, levels, rfl, rfl⟩
      rw [readVote_encode, isVeto_offer] at noVeto
      simpa [shared] using noVeto
  | late limit =>
      rw [conduct] at ends
      obtain rfl := Option.some.inj ends
      cases noVeto
  | unreachable reason => trivial
  | replies stream foreign => trivial

end Peer

/-! ## Negotiations -/

/-- What a joiner that has adopted a snapshot has attempted, and which peers consent
if it agrees: those that were heard, and in the end all. -/
inductive StageCoherent (snapshot : Snapshot) (consents : Endpoint → Prop) :
    Stage → List Attempt → Prop where
  | sharing (agreed : Bool) (unanswered : List Nat) (distinct : unanswered.Nodup)
      (agrees : agreed = true → ∀ position peer, snapshot.peers[position]? = some peer →
        position ∉ unanswered → consents peer) :
      StageCoherent snapshot consents (.sharing (.over snapshot agreed) unanswered)
        (Agent.shareAttempts (.over snapshot agreed))
  | notifying (agreed : Bool) (unsent : List Nat)
      (agrees : agreed = true → ∀ peer ∈ snapshot.peers, consents peer) :
      StageCoherent snapshot consents (.notifying (.over snapshot agreed) unsent)
        (Agent.shareAttempts (.over snapshot agreed) ++
          Agent.noticeAttempts (.over snapshot agreed))
  | published (agreed : Bool)
      (agrees : agreed = true → ∀ peer ∈ snapshot.peers, consents peer) :
      StageCoherent snapshot consents (.published agreed)
        (Agent.shareAttempts (.over snapshot agreed) ++
          Agent.noticeAttempts (.over snapshot agreed))

section Stages

variable {snapshot : Snapshot} {consents other : Endpoint → Prop} {stage : Stage}
  {attempts : List Attempt} {endpoint : Endpoint} {request : NodeRequest}

theorem StageCoherent.imp (coherent : StageCoherent snapshot consents stage attempts)
    (still : ∀ peer, consents peer → other peer) : StageCoherent snapshot other stage attempts := by
  cases coherent with
  | sharing agreed unanswered distinct agrees =>
      exact .sharing agreed unanswered distinct fun yes position peer isAt closed =>
        still peer (agrees yes position peer isAt closed)
  | notifying agreed unsent agrees =>
      exact .notifying agreed unsent fun yes peer member => still peer (agrees yes peer member)
  | published agreed agrees =>
      exact .published agreed fun yes peer member => still peer (agrees yes peer member)

/-- Every peer is sent the share, and later all of them the same notice. If that is
a commit then all consent. -/
theorem StageCoherent.attempts_cases
    (coherent : StageCoherent snapshot consents stage attempts) :
    attempts = Agent.shareAttempts (.over snapshot true) ∨
    ∃ agreed, attempts = Agent.shareAttempts (.over snapshot true) ++
        Agent.noticeAttempts (.over snapshot agreed) ∧
      (agreed = true → ∀ peer ∈ snapshot.peers, consents peer) := by
  cases coherent with
  | sharing => exact .inl rfl
  | notifying agreed unsent agrees => exact .inr ⟨agreed, rfl, agrees⟩
  | published agreed agrees => exact .inr ⟨agreed, rfl, agrees⟩

theorem StageCoherent.share (coherent : StageCoherent snapshot consents stage attempts)
    {position : Nat} {value : UInt64} (member : .share position endpoint value ∈ attempts) :
    value = snapshot.proposedShare := by
  have isShare : Attempt.share position endpoint value ∈
      Agent.shareAttempts (.over snapshot true) := by
    rcases coherent.attempts_cases with rfl | ⟨agreed, rfl, -⟩
    · exact member
    · refine (List.mem_append.mp member).resolve_right fun isNotice => ?_
      rcases List.mem_mapIdx.mp isNotice with ⟨other, inside, same⟩
      cases same
  exact NodeRequest.share.inj (line_of_mem_shareAttempts isShare rfl).2

/-- A notice goes to a peer of the round. If it is a commit then all consent. -/
theorem StageCoherent.notice (coherent : StageCoherent snapshot consents stage attempts)
    {position : Nat} (member : .notice position endpoint request ∈ attempts) :
    endpoint ∈ snapshot.peers ∧ ∃ agreed, request = (JoinRound.over snapshot agreed).notice ∧
      (agreed = true → ∀ peer ∈ snapshot.peers, consents peer) := by
  have noShare : Attempt.notice position endpoint request ∉
      Agent.shareAttempts (.over snapshot true) := by
    intro isShare
    rcases List.mem_mapIdx.mp isShare with ⟨other, inside, same⟩
    cases same
  rcases coherent.attempts_cases with rfl | ⟨agreed, rfl, agrees⟩
  · exact absurd member noShare
  · have isNotice := (List.mem_append.mp member).resolve_left noShare
    rcases line_of_mem_noticeAttempts isNotice rfl with ⟨isPeer, same⟩
    exact ⟨isPeer, agreed, same, agrees⟩

theorem StageCoherent.line (coherent : StageCoherent snapshot consents stage attempts)
    {attempt : Attempt} (member : attempt ∈ attempts)
    (line : attempt.line? = some (endpoint, request)) :
    request = .share snapshot.proposedShare ∨
    endpoint ∈ snapshot.peers ∧ ∃ agreed, request = (JoinRound.over snapshot agreed).notice ∧
      (agreed = true → ∀ peer ∈ snapshot.peers, consents peer) := by
  cases attempt with
  | share position peer value =>
      obtain ⟨rfl, rfl⟩ := Prod.mk.inj (Option.some.inj line)
      exact .inl (congrArg _ (coherent.share member))
  | notice position peer notice =>
      obtain ⟨rfl, rfl⟩ := Prod.mk.inj (Option.some.inj line)
      exact .inr (coherent.notice member)
  | alive => cases line

end Stages

namespace Negotiation

/-- What holds of a negotiation in which this snapshot was adopted, with peers that
accept no less than these shares. -/
structure Coherent (minimum : Endpoint → UInt64) (snapshot : Snapshot)
    (negotiation : Negotiation) : Prop where
  stage : StageCoherent snapshot
    (fun endpoint => (negotiation.peers endpoint).Consents (minimum endpoint)
      snapshot.proposedShare)
    negotiation.agent.stage negotiation.attempts
  peers : ∀ endpoint, (negotiation.peers endpoint).Coherent (minimum endpoint)
    snapshot.proposedShare negotiation.attempts endpoint

variable {minimum : Endpoint → UInt64} {snapshot : Snapshot} {negotiation after : Negotiation}

theorem Coherent.of_deliver? (coherent : negotiation.Coherent minimum snapshot)
    {attempt : Attempt} {endpoint : Endpoint} {now : Int64} {request : NodeRequest}
    (member : attempt ∈ negotiation.attempts) (line : attempt.line? = some (endpoint, request))
    (first : ∀ value, request = .share value → value = snapshot.proposedShare ∧
      ((negotiation.peers endpoint).conduct.isLate = false →
        ∀ other ∈ (negotiation.peers endpoint).handled, other = request))
    (delivered : negotiation.deliver? endpoint now request = some after) :
    after.Coherent minimum snapshot := by
  simp only [deliver?] at delivered
  split at delivered
  · next possible =>
      obtain rfl := Option.some.inj delivered
      simp only [Bool.and_eq_true, Bool.not_eq_true', List.contains_eq_mem,
        decide_eq_false_iff_not] at possible
      have handles : ((negotiation.peers endpoint).handle now request).Coherent (minimum endpoint)
          snapshot.proposedShare negotiation.attempts endpoint := by
        refine (coherent.peers endpoint).handle now possible.2 ⟨attempt, member, line⟩ ?_
        intro value isShare
        rcases first value isShare with ⟨same, only⟩
        refine ⟨same, fun punctual => List.eq_nil_iff_forall_not_mem.mpr fun other handled => ?_⟩
        exact possible.2 (only punctual other handled ▸ handled)
      refine ⟨coherent.stage.imp fun other consents => ?_, fun other => ?_⟩
      · dsimp only
        by_cases same : other = endpoint
        · subst other
          rw [Function.update_self]
          exact consents.handle now request
        · rw [Function.update_of_ne same]
          exact consents
      · dsimp only
        by_cases same : other = endpoint
        · subst other
          rw [Function.update_self]
          exact handles
        · rw [Function.update_of_ne same]
          exact coherent.peers other
  · cases delivered

/-- As long as a share exchange goes on, no notice is out. -/
theorem Coherent.attempts_of_isOpen (coherent : negotiation.Coherent minimum snapshot)
    {position : Nat} (isOpen : negotiation.isOpen position = true) :
    negotiation.attempts = Agent.shareAttempts (.over snapshot true) := by
  rcases negotiation with ⟨⟨stage, levels, state, stopping⟩, attempts, peers⟩
  rcases coherent with ⟨stageCoherent, -⟩
  cases stageCoherent with
  | sharing => rfl
  | notifying => cases isOpen
  | published => cases isOpen

theorem Coherent.deliver (coherent : negotiation.Coherent minimum snapshot) {attempt : Attempt}
    {now : Int64} (stepped : negotiation.step? (.deliver attempt now) = some after) :
    after.Coherent minimum snapshot := by
  simp only [step?] at stepped
  split at stepped
  · next member =>
      cases attempt with
      | share position endpoint value =>
          dsimp only at stepped
          split at stepped
          · next waited =>
              refine coherent.of_deliver? member rfl ?_ stepped
              intro other same
              obtain rfl := NodeRequest.share.inj same
              obtain rfl := coherent.stage.share member
              refine ⟨rfl, fun punctual request handled => ?_⟩
              rw [punctual, Bool.or_false] at waited
              rcases (coherent.peers endpoint).attempted request handled with
                ⟨attempt, attempted, line⟩
              rw [coherent.attempts_of_isOpen waited] at attempted
              exact (line_of_mem_shareAttempts attempted line).2
          · cases stepped
      | notice position endpoint request =>
          refine coherent.of_deliver? member rfl ?_ stepped
          intro value isShare
          rcases coherent.stage.notice member with ⟨-, agreed, rfl, -⟩
          exact absurd isShare (JoinRound.notice_ne_share _ value)
      | alive => cases stepped
  · cases stepped

/-- The answer of a peer is taken into account when its exchange ends. -/
theorem Coherent.shareEnds (coherent : negotiation.Coherent minimum snapshot) {position : Nat}
    (stepped : negotiation.step? (.shareEnds position) = some after) :
    after.Coherent minimum snapshot := by
  rcases negotiation with ⟨⟨stage, levels, state, stopping⟩, attempts, peers⟩
  rcases coherent with ⟨stageCoherent, peersCoherent⟩
  rcases Option.bind_eq_some_iff.mp stepped with ⟨answer, answered, advanced⟩
  cases stageCoherent with
  | sharing agreed unanswered distinct agrees =>
      rcases Option.bind_eq_some_iff.mp answered with ⟨endpoint, found, ends⟩
      simp only [advance?, Agent.step?] at advanced
      split at advanced
      · obtain rfl := Option.some.inj advanced
        dsimp only
        rw [List.append_nil]
        refine ⟨.sharing (agreed && !isVeto answer) (unanswered.erase position)
          (distinct.erase position) ?_, peersCoherent⟩
        intro yes other peer isAt closed
        rcases Bool.and_eq_true_iff.mp yes with ⟨before, noVeto⟩
        by_cases same : other = position
        · subst other
          obtain rfl : endpoint = peer := Option.some.inj (found.symm.trans isAt)
          exact (peersCoherent endpoint).consents_of_answer ends
            (by simpa using noVeto)
        · exact agrees before other peer isAt fun member =>
            closed (distinct.mem_erase_iff.mpr ⟨same, member⟩)
      · cases advanced
  | notifying => cases answered
  | published => cases answered

/-- When all exchanges have ended every peer is sent the same notice. -/
theorem Coherent.decide (coherent : negotiation.Coherent minimum snapshot)
    (stepped : negotiation.step? .decide = some after) : after.Coherent minimum snapshot := by
  rcases negotiation with ⟨⟨stage, levels, state, stopping⟩, attempts, peers⟩
  rcases coherent with ⟨stageCoherent, peersCoherent⟩
  cases stageCoherent with
  | sharing agreed unanswered distinct agrees =>
      cases unanswered with
      | nil =>
          obtain rfl := Option.some.inj stepped
          refine ⟨.notifying agreed _ fun yes peer member => ?_, fun endpoint => ?_⟩
          · rcases List.mem_iff_getElem?.mp member with ⟨position, isAt⟩
            exact agrees yes position peer isAt List.not_mem_nil
          · exact (peersCoherent endpoint).mono _
      | cons position others => cases stepped
  | notifying => cases stepped
  | published => cases stepped

theorem Coherent.noticeEnds (coherent : negotiation.Coherent minimum snapshot) {position : Nat}
    (stepped : negotiation.step? (.noticeEnds position) = some after) :
    after.Coherent minimum snapshot := by
  rcases negotiation with ⟨⟨stage, levels, state, stopping⟩, attempts, peers⟩
  rcases coherent with ⟨stageCoherent, peersCoherent⟩
  cases stageCoherent with
  | notifying agreed unsent agrees =>
      simp only [step?, advance?, Agent.step?] at stepped
      split at stepped
      · obtain rfl := Option.some.inj stepped
        dsimp only
        rw [List.append_nil]
        exact ⟨.notifying agreed _ agrees, peersCoherent⟩
      · cases stepped
  | sharing => cases stepped
  | published => cases stepped

theorem Coherent.publish (coherent : negotiation.Coherent minimum snapshot)
    (stepped : negotiation.step? .publish = some after) : after.Coherent minimum snapshot := by
  rcases negotiation with ⟨⟨stage, levels, state, stopping⟩, attempts, peers⟩
  rcases coherent with ⟨stageCoherent, peersCoherent⟩
  cases stageCoherent with
  | notifying agreed unsent agrees =>
      cases unsent with
      | nil =>
          cases agreed with
          | true =>
              obtain rfl := Option.some.inj stepped
              dsimp only
              rw [List.append_nil]
              exact ⟨.published true agrees, peersCoherent⟩
          | false =>
              obtain rfl := Option.some.inj stepped
              dsimp only
              rw [List.append_nil]
              exact ⟨.published false agrees, peersCoherent⟩
      | cons position others => cases stepped
  | sharing => cases stepped
  | published => cases stepped

theorem Coherent.adopt (coherent : negotiation.Coherent minimum snapshot) (other : Snapshot) :
    negotiation.step? (.adopt other) = none := by
  rcases negotiation with ⟨⟨stage, levels, state, stopping⟩, attempts, peers⟩
  rcases coherent with ⟨stageCoherent, -⟩
  cases stageCoherent <;> rfl

theorem Coherent.step (coherent : negotiation.Coherent minimum snapshot)
    {event : NegotiationEvent} (stepped : negotiation.step? event = some after) :
    after.Coherent minimum snapshot := by
  cases event with
  | adopt other =>
      rw [coherent.adopt other] at stepped
      cases stepped
  | deliver attempt now => exact coherent.deliver stepped
  | shareEnds position => exact coherent.shareEnds stepped
  | decide => exact coherent.decide stepped
  | noticeEnds position => exact coherent.noticeEnds stepped
  | publish => exact coherent.publish stepped

/-! ## Before the snapshot -/

/-- What holds of a negotiation whose joiner still waits for a snapshot. -/
structure Idle (minimum : Endpoint → UInt64) (negotiation : Negotiation) : Prop where
  stage : negotiation.agent.stage = .requesting
  attempts : negotiation.attempts = []
  least : ∀ endpoint, (negotiation.peers endpoint).server.levels.minimum = minimum endpoint
  handled : ∀ endpoint, (negotiation.peers endpoint).handled = []
  reply : ∀ endpoint, (negotiation.peers endpoint).reply = none

theorem idle_start (levels : Levels) (conduct : Endpoint → Conduct) (server : Endpoint → Server) :
    (start levels conduct server).Idle fun endpoint => (server endpoint).levels.minimum :=
  ⟨rfl, rfl, fun _ => rfl, fun _ => rfl, fun _ => rfl⟩

/-- When a snapshot is adopted every peer is sent the share. -/
theorem Idle.adopt (idle : negotiation.Idle minimum)
    (stepped : negotiation.step? (.adopt snapshot) = some after) :
    after.Coherent minimum snapshot := by
  rcases negotiation with ⟨⟨stage, levels, state, stopping⟩, attempts, peers⟩
  rcases idle with ⟨requesting, nothing, least, handled, reply⟩
  dsimp only at requesting nothing
  subst requesting nothing
  obtain rfl := Option.some.inj stepped
  refine ⟨?_, fun endpoint => ⟨least endpoint, ?_, ?_, ?_, ?_⟩⟩
  · refine .sharing (Decidable.decide (levels.minimum ≤ snapshot.proposedShare))
      (List.range snapshot.peers.length) List.nodup_range ?_
    intro _ position peer isAt closed
    exact absurd (List.mem_range.mpr (List.getElem?_eq_some_iff.mp isAt).1) closed
  · rw [handled]
    exact List.nodup_nil
  · rw [handled]
    nofun
  · rw [reply]
    nofun
  · intro _ notice value same
    rw [handled] at same
    cases same

theorem Idle.step (idle : negotiation.Idle minimum) {event : NegotiationEvent}
    (stepped : negotiation.step? event = some after) : ∃ snapshot, event = .adopt snapshot := by
  rcases negotiation with ⟨⟨stage, levels, state, stopping⟩, attempts, peers⟩
  rcases idle with ⟨requesting, nothing, -, -, -⟩
  dsimp only at requesting nothing
  subst requesting nothing
  cases event with
  | adopt snapshot => exact ⟨snapshot, rfl⟩
  | deliver attempt now => simp [step?] at stepped
  | shareEnds position => cases stepped
  | decide => cases stepped
  | noticeEnds position => cases stepped
  | publish => cases stepped

end Negotiation

/-! ## What a step does to a peer -/

/-- The request that an endpoint handles in an event. -/
def NegotiationEvent.requestTo? (endpoint : Endpoint) : NegotiationEvent → Option NodeRequest
  | .deliver attempt _ => attempt.line?.bind fun line =>
      if line.1 = endpoint then some line.2 else none
  | _ => none

namespace Negotiation

variable {negotiation after : Negotiation} {event : NegotiationEvent}

theorem peers_advance? {agentEvent : AgentEvent}
    (advanced : negotiation.advance? agentEvent = some after) :
    after.peers = negotiation.peers := by
  rcases Option.map_eq_some_iff.mp advanced with ⟨_, -, rfl⟩
  rfl

theorem peers_deliver? {destination : Endpoint} {now : Int64} {request : NodeRequest}
    (delivered : negotiation.deliver? destination now request = some after) :
    after.peers = Function.update negotiation.peers destination
      ((negotiation.peers destination).handle now request) := by
  simp only [deliver?] at delivered
  split at delivered
  · obtain rfl := Option.some.inj delivered
    rfl
  · cases delivered

/-- A delivery that happens is one of a line that was attempted. -/
theorem deliver?_of_step {attempt : Attempt} {now : Int64}
    (stepped : negotiation.step? (.deliver attempt now) = some after) :
    attempt ∈ negotiation.attempts ∧ ∃ destination request,
      attempt.line? = some (destination, request) ∧
      negotiation.deliver? destination now request = some after := by
  simp only [step?] at stepped
  split at stepped
  · next member =>
      refine ⟨member, ?_⟩
      cases attempt with
      | share position endpoint value =>
          dsimp only at stepped
          split at stepped
          · exact ⟨endpoint, .share value, rfl, stepped⟩
          · cases stepped
      | notice position endpoint request => exact ⟨endpoint, request, rfl, stepped⟩
      | alive => cases stepped
  · cases stepped

/-- A peer is as before, or it has handled a request that was attempted. -/
theorem peers_step (stepped : negotiation.step? event = some after) (endpoint : Endpoint) :
    (event.requestTo? endpoint = none ∧ after.peers endpoint = negotiation.peers endpoint) ∨
    ∃ now request, event.requestTo? endpoint = some request ∧
      (∃ attempt ∈ negotiation.attempts, attempt.line? = some (endpoint, request)) ∧
      after.peers endpoint = (negotiation.peers endpoint).handle now request := by
  cases event with
  | adopt snapshot => exact .inl ⟨rfl, congrFun (peers_advance? stepped) endpoint⟩
  | shareEnds position =>
      rcases Option.bind_eq_some_iff.mp stepped with ⟨answer, -, advanced⟩
      exact .inl ⟨rfl, congrFun (peers_advance? advanced) endpoint⟩
  | decide => exact .inl ⟨rfl, congrFun (peers_advance? stepped) endpoint⟩
  | noticeEnds position => exact .inl ⟨rfl, congrFun (peers_advance? stepped) endpoint⟩
  | publish => exact .inl ⟨rfl, congrFun (peers_advance? stepped) endpoint⟩
  | deliver attempt now =>
      rcases deliver?_of_step stepped with ⟨member, destination, request, line, delivered⟩
      rw [peers_deliver? delivered]
      simp only [NegotiationEvent.requestTo?, line, Option.bind_some]
      by_cases same : destination = endpoint
      · subst destination
        rw [if_pos rfl, Function.update_self]
        exact .inr ⟨now, request, rfl, ⟨attempt, member, line⟩, rfl⟩
      · rw [if_neg same, Function.update_of_ne (Ne.symm same)]
        exact .inl ⟨rfl, rfl⟩

theorem conduct_step (stepped : negotiation.step? event = some after) (endpoint : Endpoint) :
    (after.peers endpoint).conduct = (negotiation.peers endpoint).conduct := by
  rcases peers_step stepped endpoint with ⟨-, same⟩ | ⟨now, request, -, -, same⟩
  · rw [same]
  · rw [same, Peer.conduct_handle]

theorem attempts_step (stepped : negotiation.step? event = some after) :
    negotiation.attempts ⊆ after.attempts := by
  have advances {agentEvent : AgentEvent}
      (advanced : negotiation.advance? agentEvent = some after) :
      negotiation.attempts ⊆ after.attempts := by
    rcases Option.map_eq_some_iff.mp advanced with ⟨_, -, rfl⟩
    exact List.subset_append_left _ _
  cases event with
  | adopt snapshot => exact advances stepped
  | shareEnds position =>
      rcases Option.bind_eq_some_iff.mp stepped with ⟨answer, -, advanced⟩
      exact advances advanced
  | decide => exact advances stepped
  | noticeEnds position => exact advances stepped
  | publish => exact advances stepped
  | deliver attempt now =>
      rcases deliver?_of_step stepped with ⟨-, destination, request, -, delivered⟩
      simp only [deliver?] at delivered
      split at delivered
      · obtain rfl := Option.some.inj delivered
        exact List.Subset.refl _
      · cases delivered

end Negotiation

end ArithmeticCloud.Joining
