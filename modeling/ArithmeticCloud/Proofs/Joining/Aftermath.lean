import ArithmeticCloud.Proofs.Joining.Coherence

/-!
Contract: what a join round leaves behind at its peers.

Owns: the levels of every peer that can be reached, once the outcome of a round is
published and all of its lines are handled. A peer that answered in time has nothing
staged then. One for which the joiner has given up waiting may handle the share
after the notice: the notice was a rollback, and the share stays staged.

Does not own: rounds that overlap.
-/

namespace ArithmeticCloud.Joining

open Network Node Transport Wire

namespace Negotiation

variable {minimum : Endpoint → UInt64} {snapshot : Snapshot} {negotiation after : Negotiation}
  {conduct : Endpoint → Conduct} {server : Endpoint → Server}

/-! ## Runs -/

theorem Coherent.run (coherent : negotiation.Coherent minimum snapshot)
    {events : List NegotiationEvent} (ran : negotiation.run? events = some after) :
    after.Coherent minimum snapshot := by
  induction events generalizing negotiation with
  | nil =>
      obtain rfl := Option.some.inj ran
      exact coherent
  | cons event others inductionHypothesis =>
      rcases Option.bind_eq_some_iff.mp ran with ⟨next, stepped, rest⟩
      exact inductionHypothesis (coherent.step stepped) rest

/-- Nobody else talks to the peers. -/
def Alone (conduct : Endpoint → Conduct) (server : Endpoint → Server)
    (negotiation : Negotiation) : Prop :=
  ∀ endpoint, (negotiation.peers endpoint).conduct = conduct endpoint ∧
    (negotiation.peers endpoint).server.levels =
      (negotiation.peers endpoint).handled.foldl Levels.handle (server endpoint).levels

theorem Alone.run (alone : negotiation.Alone conduct server) {events : List NegotiationEvent}
    (ran : negotiation.run? events = some after) : after.Alone conduct server := by
  induction events generalizing negotiation with
  | nil =>
      obtain rfl := Option.some.inj ran
      exact alone
  | cons event others inductionHypothesis =>
      rcases Option.bind_eq_some_iff.mp ran with ⟨next, stepped, rest⟩
      refine inductionHypothesis (fun endpoint => ?_) rest
      rcases peers_step stepped endpoint with ⟨-, same⟩ | ⟨now, request, -, -, handled⟩
      · rw [same]
        exact alone endpoint
      · rw [handled, Peer.conduct_handle, Peer.levels_handle, Peer.handled_handle,
          List.foldl_append, ← (alone endpoint).2]
        exact ⟨(alone endpoint).1, rfl⟩

/-! ## When all lines are handled -/

/-- A round that commits has given up on none of its peers. -/
theorem Coherent.not_late (coherent : negotiation.Coherent minimum snapshot)
    (published : negotiation.agent.stage = .published true) {endpoint : Endpoint}
    (isPeer : endpoint ∈ snapshot.peers) :
    ¬ (negotiation.peers endpoint).conduct.isLate = true := by
  have consents : (negotiation.peers endpoint).Consents (minimum endpoint)
      snapshot.proposedShare := by
    have stage := coherent.stage
    rw [published] at stage
    generalize negotiation.attempts = attempts at stage
    cases stage with
    | published agreed agrees => exact agrees rfl endpoint isPeer
  intro late
  unfold Peer.Consents at consents
  cases conduct : (negotiation.peers endpoint).conduct with
  | late limit =>
      rw [conduct] at consents
      exact consents
  | _ =>
      rw [conduct] at late
      cases late

/-- No line is left that a peer could still handle. -/
def Quiet (negotiation : Negotiation) : Prop :=
  ∀ attempt now, negotiation.step? (.deliver attempt now) = none

theorem quiet_of_handled
    (handled : ∀ attempt ∈ negotiation.attempts, ∀ endpoint request,
      attempt.line? = some (endpoint, request) →
        request ∈ (negotiation.peers endpoint).handled) : negotiation.Quiet := by
  intro attempt now
  refine Option.eq_none_iff_forall_not_mem.mpr fun after stepped => ?_
  rcases deliver?_of_step stepped with ⟨member, endpoint, request, line, delivered⟩
  simp [deliver?, handled attempt member endpoint request line] at delivered

/-- Once the outcome is published and all lines are handled, a peer has handled its
notice, and the share before or after it if at all. -/
theorem Coherent.handled_cases (coherent : negotiation.Coherent minimum snapshot) {joined : Bool}
    (published : negotiation.agent.stage = .published joined) (quiet : negotiation.Quiet)
    {endpoint : Endpoint} (isPeer : endpoint ∈ snapshot.peers)
    (reachable : (negotiation.peers endpoint).conduct.isReachable = true) :
    (negotiation.peers endpoint).handled = [(JoinRound.over snapshot joined).notice] ∨
    (negotiation.peers endpoint).handled =
      [.share snapshot.proposedShare, (JoinRound.over snapshot joined).notice] ∨
    (negotiation.peers endpoint).handled =
      [(JoinRound.over snapshot joined).notice, .share snapshot.proposedShare] := by
  have attempts : negotiation.attempts = Agent.shareAttempts (.over snapshot joined) ++
      Agent.noticeAttempts (.over snapshot joined) := by
    have stage := coherent.stage
    rw [published] at stage
    generalize negotiation.attempts = attempts at stage
    cases stage
    rfl
  have told : (JoinRound.over snapshot joined).notice ∈ (negotiation.peers endpoint).handled := by
    rcases List.mem_iff_getElem.mp isPeer with ⟨position, inside, rfl⟩
    have attempted : Attempt.notice position snapshot.peers[position]
        (JoinRound.over snapshot joined).notice ∈ negotiation.attempts := by
      rw [attempts]
      exact List.mem_append_right _ (List.mem_mapIdx.mpr ⟨position, inside, rfl⟩)
    have none := quiet (.notice position snapshot.peers[position]
      (JoinRound.over snapshot joined).notice) 0
    simpa [step?, attempted, deliver?, reachable] using none
  have within : ∀ request ∈ (negotiation.peers endpoint).handled,
      request = .share snapshot.proposedShare ∨
        request = (JoinRound.over snapshot joined).notice := by
    intro request handled
    rcases (coherent.peers endpoint).attempted request handled with ⟨attempt, member, line⟩
    rw [attempts] at member
    rcases List.mem_append.mp member with share | notice
    · exact .inl (line_of_mem_shareAttempts share line).2
    · exact .inr (line_of_mem_noticeAttempts notice line).2
  rcases nodup_pair_cases (coherent.peers endpoint).once within with
    handled | handled | handled | handled | handled
  · rw [handled] at told
    cases told
  · rw [handled, List.mem_singleton] at told
    exact absurd told (JoinRound.notice_ne_share _ _)
  · exact .inl handled
  · exact .inr (.inl handled)
  · exact .inr (.inr handled)

end Negotiation

/-! ## What stays staged -/

/-- A notice leaves nothing staged. -/
theorem settled_handle_notice (round : JoinRound) (levels : Levels) :
    (levels.handle round.notice).Settled := by
  unfold JoinRound.notice
  split <;> rfl

/-- A share after a rollback stays staged, unless it is refused or what the node
holds anyway. -/
theorem settled_share_rollback_iff (levels : Levels) (share : UInt64) :
    (levels.rollback.handle (.share share)).Settled ↔
      share < levels.minimum ∨ share = levels.committed := by
  have least : levels.rollback.minimum = levels.minimum := rfl
  by_cases accepted : levels.minimum ≤ share
  · have notLess : ¬ share < levels.minimum := UInt64.not_lt.mpr accepted
    rw [Levels.handle_share_of_le (least ▸ accepted), or_iff_right notLess]
    rfl
  · rw [Levels.handle_share_of_not_le (least ▸ accepted)]
    exact iff_of_true rfl (.inl (UInt64.not_le.mp accepted))

namespace Negotiation

/-- Once a round is over and all of its lines are handled, a peer that can be reached
has nothing staged, unless it handled the share after the notice. This happens only
if the joiner gave up waiting for the peer. The round was rolled back then, and the
peer keeps the share staged if it accepts it. -/
theorem settled_iff {levels : Levels} {conduct : Endpoint → Conduct} {server : Endpoint → Server}
    {snapshot : Snapshot} {events : List NegotiationEvent} {final : Negotiation}
    (ran : (start levels conduct server).run? (.adopt snapshot :: events) = some final)
    {joined : Bool} (published : final.agent.stage = .published joined) (quiet : final.Quiet)
    {peer : Endpoint} (isPeer : peer ∈ snapshot.peers)
    (reachable : (conduct peer).isReachable = true) :
    ((final.peers peer).server.levels.Settled ↔
      (final.peers peer).InOrder ∨ snapshot.proposedShare < (server peer).levels.minimum ∨
        snapshot.proposedShare = (server peer).levels.committed) ∧
    (¬ (final.peers peer).InOrder →
      (conduct peer).isLate = true ∧ joined = false ∧
      (final.peers peer).server.levels =
        (server peer).levels.rollback.handle (.share snapshot.proposedShare)) := by
  rcases Option.bind_eq_some_iff.mp ran with ⟨adopted, opened, rest⟩
  have coherent := ((idle_start levels conduct server).adopt opened).run rest
  have begun : (start levels conduct server).Alone conduct server := fun _ => ⟨rfl, rfl⟩
  rcases begun.run ran peer with ⟨sameConduct, sameLevels⟩
  have outOfOrder (late : ¬ (final.peers peer).InOrder) :
      (conduct peer).isLate = true ∧ joined = false := by
    have isLate : (final.peers peer).conduct.isLate = true :=
      Bool.not_eq_false _ ▸ mt (coherent.peers peer).inOrder late
    refine ⟨sameConduct ▸ isLate, ?_⟩
    cases joined with
    | false => rfl
    | true => exact absurd isLate (coherent.not_late published isPeer)
  rw [← sameConduct] at reachable
  rcases coherent.handled_cases published quiet isPeer reachable with handled | handled | handled
  · have settled : (final.peers peer).server.levels.Settled := by
      rw [sameLevels, handled]
      exact settled_handle_notice _ _
    have inOrder : (final.peers peer).InOrder := by
      intro notice value same
      rw [handled] at same
      cases same
    exact ⟨iff_of_true settled (.inl inOrder), fun late => absurd inOrder late⟩
  · have settled : (final.peers peer).server.levels.Settled := by
      rw [sameLevels, handled]
      exact settled_handle_notice _ _
    have inOrder : (final.peers peer).InOrder := by
      intro notice value same
      rw [handled] at same
      exact JoinRound.notice_ne_share _ value (List.cons.inj (List.cons.inj same).2).1
    exact ⟨iff_of_true settled (.inl inOrder), fun late => absurd inOrder late⟩
  · have late : ¬ (final.peers peer).InOrder := fun inOrder => inOrder _ _ handled
    rcases outOfOrder late with ⟨isLate, rfl⟩
    have rolledBack : (final.peers peer).server.levels =
        (server peer).levels.rollback.handle (.share snapshot.proposedShare) := by
      rw [sameLevels, handled]
      rfl
    refine ⟨?_, fun _ => ⟨isLate, rfl, rolledBack⟩⟩
    rw [rolledBack, settled_share_rollback_iff, or_iff_right late]

/-- A joiner with a single peer, for which it gives up waiting. -/
def impatient : Negotiation :=
  start ⟨0, 0, 0⟩ (fun _ => .late ⟨500⟩) fun _ => .initial 0 16

/-- The peer handles the rollback first and the share afterwards. -/
def overtaken : List NegotiationEvent :=
  [.adopt ⟨[.v4 .loopback 7001], 100⟩, .shareEnds 0, .decide,
    .deliver (.notice 0 (.v4 .loopback 7001) .rollback) 0, .noticeEnds 0, .publish,
    .deliver (.share 0 (.v4 .loopback 7001) 50) 0]

theorem run?_overtaken : ∃ final, impatient.run? overtaken = some final ∧
    final.agent.stage = .published false ∧ final.Quiet ∧
    (final.peers (.v4 .loopback 7001)).handled = [.rollback, .share 50] ∧
    (final.peers (.v4 .loopback 7001)).conduct.isReachable = true ∧
    ¬ (final.peers (.v4 .loopback 7001)).server.levels.Settled := by
  have possible : (impatient.run? overtaken).any (fun final => decide
      (final.agent.stage = .published false ∧
        final.attempts = [.share 0 (.v4 .loopback 7001) 50,
          .notice 0 (.v4 .loopback 7001) .rollback] ∧
        (final.peers (.v4 .loopback 7001)).handled = [.rollback, .share 50] ∧
        (final.peers (.v4 .loopback 7001)).conduct.isReachable = true ∧
        ¬ (final.peers (.v4 .loopback 7001)).server.levels.Settled)) = true := by
    decide +kernel
  rcases (Option.any_eq_true _ _).mp possible with ⟨final, ran, reached⟩
  rcases of_decide_eq_true reached with ⟨published, attempts, handled, others⟩
  refine ⟨final, ran, published, quiet_of_handled fun attempt member endpoint request line => ?_,
    handled, others⟩
  rw [attempts] at member
  rcases List.mem_pair.mp member with rfl | rfl
  · obtain ⟨rfl, rfl⟩ := Prod.mk.inj (Option.some.inj line)
    rw [handled]
    exact List.mem_cons_of_mem _ List.mem_cons_self
  · obtain ⟨rfl, rfl⟩ := Prod.mk.inj (Option.some.inj line)
    rw [handled]
    exact List.mem_cons_self

theorem settled_iff_overtaken :
    ∃ final, impatient.run? overtaken = some final ∧
      final.agent.stage = .published false ∧ final.Quiet ∧
      (final.peers (.v4 .loopback 7001)).server.levels = ⟨0, 50, 0⟩ := by
  rcases run?_overtaken with ⟨final, ran, published, quiet, handled, -, -⟩
  have late : ¬ (final.peers (.v4 .loopback 7001)).InOrder := fun inOrder => inOrder _ _ handled
  refine ⟨final, ran, published, quiet, ?_⟩
  exact ((settled_iff ran published quiet List.mem_cons_self rfl).2 late).2.2

/-- A share that a rollback has overtaken stays staged when the round is over. -/
theorem staged_overtaken :
    (impatient.peers (.v4 .loopback 7001)).server.levels.Settled ∧
    ∃ final, impatient.run? overtaken = some final ∧
      final.agent.stage = .published false ∧ final.Quiet ∧
      (final.peers (.v4 .loopback 7001)).conduct.isReachable = true ∧
      ¬ (final.peers (.v4 .loopback 7001)).server.levels.Settled := by
  rcases run?_overtaken with ⟨final, ran, published, quiet, -, reachable, staged⟩
  exact ⟨rfl, final, ran, published, quiet, reachable, staged⟩

end Negotiation

end ArithmeticCloud.Joining
