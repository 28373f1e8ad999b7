import ArithmeticCloud.Proofs.Joining.Agreement
import Mathlib

/-!
Contract: every run of a negotiation comes to the outcome that its setting fixes.

Owns:
- that every step keeps `Setting.Fits`;
- how many steps a run has, and that a run which has not come to an end goes on;
- what the joiner and the peers hold in the end.

Does not own: requests of other rounds.
-/

namespace ArithmeticCloud.Joining

open Network Node Transport Wire

namespace Setting

variable {setting : Setting} {events : List NegotiationEvent} {negotiation after : Negotiation}

/-! ## Lines -/

/-- One more at one place makes one more in all. -/
theorem sum_map_succ {entries : List Endpoint} (distinct : entries.Nodup) {endpoint : Endpoint}
    (member : endpoint ∈ entries) {before after : Endpoint → Nat}
    (one : after endpoint = before endpoint + 1)
    (others : ∀ other, other ≠ endpoint → after other = before other) :
    (entries.map after).sum = (entries.map before).sum + 1 := by
  induction entries with
  | nil => cases member
  | cons entry rest inductionHypothesis =>
      rcases List.nodup_cons.mp distinct with ⟨fresh, restDistinct⟩
      rw [List.map_cons, List.sum_cons, List.map_cons, List.sum_cons]
      by_cases same : endpoint = entry
      · subst endpoint
        have rest : rest.map after = rest.map before :=
          List.map_congr_left fun other inRest => others other (ne_of_mem_of_not_mem inRest fresh)
        rw [one, rest]
        omega
      · have inRest : endpoint ∈ rest := (List.mem_cons.mp member).resolve_left same
        rw [others entry (Ne.symm same), inductionHypothesis restDistinct inRest]
        omega

theorem Fits.of_deliver? (fits : setting.Fits events negotiation) (event : NegotiationEvent)
    {attempt : Attempt} {endpoint : Endpoint} {now : Int64} {request : NodeRequest}
    (member : attempt ∈ negotiation.attempts) (line : attempt.line? = some (endpoint, request))
    (first : ∀ value, request = .share value → (setting.conduct endpoint).isLate = false →
      value = setting.share ∧
        ∀ other ∈ (negotiation.peers endpoint).handled, other = .share setting.share)
    (delivered : negotiation.deliver? endpoint now request = some after) :
    setting.Fits (events ++ [event]) after := by
  simp only [Negotiation.deliver?] at delivered
  split at delivered
  · next possible =>
      obtain rfl := Option.some.inj delivered
      simp only [Bool.and_eq_true, Bool.not_eq_true', List.contains_eq_mem,
        decide_eq_false_iff_not] at possible
      rcases possible with ⟨reachable, new⟩
      rcases fits.stage.line member line with ⟨isPeer, -⟩
      refine ⟨fits.stage.mono event, fun other => ?_, ?_⟩
      · change setting.PeerFits negotiation.attempts other (Function.update negotiation.peers
          endpoint ((negotiation.peers endpoint).handle now request) other)
        by_cases same : other = endpoint
        · subst other
          rw [Function.update_self]
          refine (fits.peers endpoint).handle now reachable new ⟨attempt, member, line⟩ ?_
          intro value isShare punctual
          rcases first value isShare punctual with ⟨sameValue, only⟩
          refine ⟨sameValue, List.eq_nil_iff_forall_not_mem.mpr fun other handled => new ?_⟩
          rw [isShare, sameValue, ← only other handled]
          exact handled
        · rw [Function.update_of_ne same]
          exact fits.peers other
      · have more : (setting.peers.map fun peer => (Function.update negotiation.peers endpoint
            ((negotiation.peers endpoint).handle now request) peer).handled.length).sum =
              (setting.peers.map fun peer => (negotiation.peers peer).handled.length).sum + 1 := by
          refine sum_map_succ setting.distinct isPeer ?_ fun other different => ?_
          · rw [Function.update_self, Peer.handled_handle, List.length_append,
              List.length_singleton]
          · rw [Function.update_of_ne different]
        have before := fits.work
        simp only [Setting.work] at before ⊢
        rw [List.length_append, List.length_singleton, more]
        omega
  · cases delivered

/-- As long as a share exchange goes on, no notice is out. -/
theorem Fits.attempts_of_isOpen (fits : setting.Fits events negotiation) {position : Nat}
    (isOpen : negotiation.isOpen position = true) : negotiation.attempts = setting.shares := by
  rcases negotiation with ⟨⟨stage, levels, state, stopping⟩, attempts, peers⟩
  rcases fits with ⟨stageFits, -, -⟩
  cases stageFits with
  | sharing => rfl
  | notifying => cases isOpen
  | published => cases isOpen

theorem Fits.deliver (fits : setting.Fits events negotiation) {attempt : Attempt} {now : Int64}
    (stepped : negotiation.step? (.deliver attempt now) = some after) :
    setting.Fits (events ++ [.deliver attempt now]) after := by
  simp only [Negotiation.step?] at stepped
  split at stepped
  · next member =>
      cases attempt with
      | share position endpoint value =>
          dsimp only at stepped
          split at stepped
          · next waited =>
              refine fits.of_deliver? _ member rfl ?_ stepped
              intro other same punctual
              obtain rfl := NodeRequest.share.inj same
              rw [(fits.peers endpoint).conduct, punctual, Bool.or_false] at waited
              have onlyShares := fits.attempts_of_isOpen waited
              rw [onlyShares] at member
              refine ⟨NodeRequest.share.inj (line_of_mem_shares member rfl).2, ?_⟩
              intro request handled
              rcases (fits.peers endpoint).attempted request handled with ⟨attempt, attempted, line⟩
              rw [onlyShares] at attempted
              exact (line_of_mem_shares attempted line).2
          · cases stepped
      | notice position endpoint request =>
          refine fits.of_deliver? _ member rfl ?_ stepped
          intro value isShare punctual
          exact absurd isShare (fits.stage.notice_ne_share member value)
      | alive => cases stepped
  · cases stepped

/-! ## The joiner -/

theorem Fits.adopt (fits : setting.Fits events negotiation) (snapshot : Snapshot) :
    negotiation.step? (.adopt snapshot) = none := by
  rcases negotiation with ⟨⟨stage, levels, state, stopping⟩, attempts, peers⟩
  rcases fits with ⟨stageFits, -, -⟩
  cases stageFits <;> rfl

/-- One more exchange has ended. -/
theorem forall_closed_erase {unanswered : List Nat} (distinct : unanswered.Nodup)
    {peers : List Endpoint} {position : Nat} {endpoint : Endpoint}
    (found : peers[position]? = some endpoint) {holds : Endpoint → Prop} :
    ((∀ other peer, peers[other]? = some peer → other ∉ unanswered → holds peer) ∧
      holds endpoint) ↔
    ∀ other peer, peers[other]? = some peer → other ∉ unanswered.erase position → holds peer := by
  constructor
  · rintro ⟨earlier, last⟩ other peer isAt closed
    by_cases same : other = position
    · subst other
      obtain rfl : endpoint = peer := Option.some.inj (found.symm.trans isAt)
      exact last
    · exact earlier other peer isAt fun member =>
        closed (distinct.mem_erase_iff.mpr ⟨same, member⟩)
  · intro all
    refine ⟨fun other peer isAt closed => ?_, ?_⟩
    · exact all other peer isAt fun member => closed (List.mem_of_mem_erase member)
    · exact all position endpoint found fun member => (distinct.mem_erase_iff.mp member).1 rfl

/-- The answer of a peer is taken into account when its exchange ends. -/
theorem Fits.shareEnds (fits : setting.Fits events negotiation) {position : Nat}
    (stepped : negotiation.step? (.shareEnds position) = some after) :
    setting.Fits (events ++ [.shareEnds position]) after := by
  rcases negotiation with ⟨⟨stage, levels, state, stopping⟩, attempts, peers⟩
  rcases fits with ⟨stageFits, peersFit, sameWork⟩
  rcases Option.bind_eq_some_iff.mp stepped with ⟨answer, answered, advanced⟩
  cases stageFits with
  | sharing agreed unanswered distinct few inside agrees ended =>
      rcases Option.bind_eq_some_iff.mp answered with ⟨endpoint, found, ends⟩
      simp only [Negotiation.advance?, Agent.step?] at advanced
      split at advanced
      · next isOpen =>
          obtain rfl := Option.some.inj advanced
          have shorter := List.length_erase_of_mem isOpen
          have nonempty := List.length_pos_of_mem isOpen
          dsimp only
          rw [List.append_nil]
          refine ⟨.sharing (agreed && !isVeto answer) (unanswered.erase position)
            (distinct.erase position) ?_ ?_ ?_ ?_, peersFit, ?_⟩
          · omega
          · intro other member
            exact inside other (List.mem_of_mem_erase member)
          · rw [Bool.and_eq_true, Bool.not_eq_true', agrees,
              (peersFit endpoint).isVeto_answer ends, and_assoc]
            exact and_congr_right fun _ => forall_closed_erase distinct found
          · intro other below closed
            by_cases same : other = position
            · subst other
              exact List.mem_append_right _ (List.mem_singleton_self _)
            · exact List.mem_append_left _ (ended other below fun member =>
                closed (distinct.mem_erase_iff.mpr ⟨same, member⟩))
          · simp only [Setting.work] at sameWork ⊢
            rw [List.length_append, List.length_singleton, sameWork]
            omega
      · cases advanced
  | notifying => cases answered
  | published => cases answered

/-- When all exchanges have ended the outcome is fixed, and every peer is sent the
same notice. -/
theorem Fits.decide (fits : setting.Fits events negotiation)
    (stepped : negotiation.step? .decide = some after) :
    setting.Fits (events ++ [.decide]) after := by
  rcases negotiation with ⟨⟨stage, levels, state, stopping⟩, attempts, peers⟩
  rcases fits with ⟨stageFits, peersFit, sameWork⟩
  cases stageFits with
  | sharing agreed unanswered distinct few inside agrees ended =>
      cases unanswered with
      | nil =>
          have decided : agreed = Decidable.decide setting.Commits := by
            rw [Bool.eq_iff_iff, agrees, decide_eq_true_iff]
            refine and_congr_right fun _ => ⟨fun all peer member => ?_, fun all position peer isAt _ => ?_⟩
            · rcases List.mem_iff_getElem?.mp member with ⟨position, isAt⟩
              exact all position peer isAt List.not_mem_nil
            · exact all peer (List.mem_of_getElem? isAt)
          subst decided
          obtain rfl := Option.some.inj stepped
          dsimp only
          rw [noticeAttempts_round]
          refine ⟨.notifying _ (by rw [List.length_range]; rfl) ?_, ?_, ?_⟩
          · intro position below
            exact List.mem_append_left _ (ended position below List.not_mem_nil)
          · intro endpoint
            exact (peersFit endpoint).mono setting.notices
          · simp only [Setting.work, List.length_nil, List.length_range] at sameWork ⊢
            rw [List.length_append, List.length_singleton, sameWork]
            simp only [round]
            omega
      | cons position others => cases stepped
  | notifying => cases stepped
  | published => cases stepped

theorem Fits.noticeEnds (fits : setting.Fits events negotiation) {position : Nat}
    (stepped : negotiation.step? (.noticeEnds position) = some after) :
    setting.Fits (events ++ [.noticeEnds position]) after := by
  rcases negotiation with ⟨⟨stage, levels, state, stopping⟩, attempts, peers⟩
  rcases fits with ⟨stageFits, peersFit, sameWork⟩
  cases stageFits with
  | notifying unsent few ended =>
      simp only [Negotiation.step?, Negotiation.advance?, Agent.step?] at stepped
      split at stepped
      · next isUnsent =>
          obtain rfl := Option.some.inj stepped
          have shorter := List.length_erase_of_mem isUnsent
          have nonempty := List.length_pos_of_mem isUnsent
          dsimp only
          rw [List.append_nil]
          refine ⟨.notifying (unsent.erase position) (by omega) ?_, peersFit, ?_⟩
          · intro other below
            exact List.mem_append_left _ (ended other below)
          · simp only [Setting.work] at sameWork ⊢
            rw [List.length_append, List.length_singleton, sameWork]
            omega
      · cases stepped
  | sharing => cases stepped
  | published => cases stepped

/-- The joiner settles its own levels the way it has told its peers to. -/
theorem settle_stage (setting : Setting) :
    (setting.round (decide setting.Commits)).settle (setting.levels.stage setting.share) =
      if setting.Commits then (.committed setting.share, setting.outcome)
      else (.rolledBack setting.levels.committed, setting.outcome) := by
  unfold JoinRound.settle outcome
  by_cases commits : setting.Commits
  · simp only [round, commits, decide_true, if_true]
    rfl
  · simp only [round, commits, decide_false, if_false, Bool.false_eq_true,
      Levels.rollback_stage setting.settled]

theorem publish_round (setting : Setting) (state : JoinState) (stopping : Bool) :
    (Agent.mk (.notifying (setting.round (decide setting.Commits)) [])
      (setting.levels.stage setting.share) state stopping).step? .publish =
        some (⟨.published (decide setting.Commits), setting.outcome,
          if setting.Commits then .joined setting.share else .rejected, stopping⟩, []) := by
  simp only [Agent.step?, settle_stage]
  by_cases commits : setting.Commits
  · simp only [commits, decide_true, if_true]
  · simp only [commits, decide_false, if_false]

theorem Fits.publish (fits : setting.Fits events negotiation)
    (stepped : negotiation.step? .publish = some after) :
    setting.Fits (events ++ [.publish]) after := by
  rcases negotiation with ⟨⟨stage, levels, state, stopping⟩, attempts, peers⟩
  rcases fits with ⟨stageFits, peersFit, sameWork⟩
  cases stageFits with
  | notifying unsent few ended =>
      cases unsent with
      | nil =>
          rcases Option.map_eq_some_iff.mp stepped with ⟨⟨agent, more⟩, settled, rfl⟩
          obtain ⟨rfl, rfl⟩ := Prod.mk.inj (Option.some.inj
            ((setting.publish_round .pending stopping).symm.trans settled))
          dsimp only
          rw [List.append_nil]
          refine ⟨.published ?_, peersFit, ?_⟩
          · intro position below
            exact List.mem_append_left _ (ended position below)
          · simp only [Setting.work, List.length_nil] at sameWork ⊢
            rw [List.length_append, List.length_singleton, sameWork]
            omega
      | cons position others => cases stepped
  | sharing => cases stepped
  | published => cases stepped

/-! ## Runs -/

theorem step_fits (fits : setting.Fits events negotiation) {event : NegotiationEvent}
    (stepped : negotiation.step? event = some after) : setting.Fits (events ++ [event]) after := by
  cases event with
  | adopt snapshot =>
      rw [fits.adopt snapshot] at stepped
      cases stepped
  | deliver attempt now => exact fits.deliver stepped
  | shareEnds position => exact fits.shareEnds stepped
  | decide => exact fits.decide stepped
  | noticeEnds position => exact fits.noticeEnds stepped
  | publish => exact fits.publish stepped

theorem run_fits (fits : setting.Fits events negotiation) {more : List NegotiationEvent}
    (ran : negotiation.run? more = some after) : setting.Fits (events ++ more) after := by
  induction more generalizing events negotiation with
  | nil =>
      obtain rfl := Option.some.inj ran
      rw [List.append_nil]
      exact fits
  | cons event others inductionHypothesis =>
      rcases Option.bind_eq_some_iff.mp ran with ⟨next, stepped, rest⟩
      rw [List.append_cons]
      exact inductionHypothesis (step_fits fits stepped) rest

/-- When the snapshot is adopted every peer is sent the share. -/
theorem adopted_fits (adopted : setting.start.step? (.adopt setting.snapshot) = some after) :
    setting.Fits [] after := by
  obtain rfl := Option.some.inj adopted
  refine ⟨?_, fun endpoint => .fresh setting _ endpoint, ?_⟩
  · refine .sharing (decide (setting.levels.minimum ≤ setting.share))
      (List.range setting.peers.length) List.nodup_range ?_ ?_ ?_ ?_
    · rw [List.length_range]
    · intro position member
      exact List.mem_range.mp member
    · rw [decide_eq_true_iff]
      refine (and_iff_left ?_).symm
      intro position peer isAt closed
      exact absurd (List.mem_range.mpr (List.getElem?_eq_some_iff.mp isAt).1) closed
    · intro position below closed
      exact absurd (List.mem_range.mpr below) closed
  · simp [work, start, Negotiation.start, Peer.fresh, JoinRound.ofSnapshot, peers]

/-! ## Progress -/

theorem Fits.handled_mem (fits : setting.Fits events negotiation) {endpoint : Endpoint}
    {request : NodeRequest} (handled : request ∈ (negotiation.peers endpoint).handled) :
    request = .share setting.share ∨ request = setting.notice := by
  rcases (fits.peers endpoint).attempted request handled with ⟨attempt, attempted, line⟩
  exact (fits.stage.line attempted line).2

/-- A peer handles two lines at most. -/
theorem Fits.length_handled_le (fits : setting.Fits events negotiation) (endpoint : Endpoint) :
    (negotiation.peers endpoint).handled.length ≤ 2 := by
  have within : (negotiation.peers endpoint).handled ⊆ [.share setting.share, setting.notice] := by
    intro request handled
    rcases fits.handled_mem handled with rfl | rfl
    · exact List.mem_cons_self
    · exact List.mem_cons_of_mem _ List.mem_cons_self
  exact ((fits.peers endpoint).once.subperm within).length_le

theorem Fits.length_le (fits : setting.Fits events negotiation) :
    events.length ≤ 4 * setting.peers.length + 2 := by
  have lines : (setting.peers.map fun peer => (negotiation.peers peer).handled.length).sum ≤
      2 * setting.peers.length := by
    refine (List.sum_le_card_nsmul _ 2 ?_).trans ?_
    · intro count member
      rcases List.mem_map.mp member with ⟨peer, -, rfl⟩
      exact fits.length_handled_le peer
    · rw [List.length_map, smul_eq_mul, Nat.mul_comm]
  rcases negotiation with ⟨⟨stage, levels, state, stopping⟩, attempts, peers⟩
  rcases fits with ⟨stageFits, -, sameWork⟩
  rw [sameWork]
  cases stageFits with
  | sharing =>
      simp only [Setting.work] at lines ⊢
      omega
  | notifying =>
      simp only [Setting.work] at lines ⊢
      omega
  | published =>
      simp only [Setting.work] at lines ⊢
      omega

/-- A share exchange that goes on can end, or its share can be handled. -/
theorem Fits.exists_step_of_isOpen (fits : setting.Fits events negotiation) {position : Nat}
    (isOpen : negotiation.isOpen position = true) (inside : position < setting.peers.length) :
    ∃ event, (negotiation.step? event).isSome = true := by
  have found : setting.peers[position]? = some setting.peers[position] :=
    List.getElem?_eq_getElem inside
  generalize setting.peers[position] = endpoint at found
  by_cases unheard : setting.conduct endpoint = .votes ∧
      .share setting.share ∉ (negotiation.peers endpoint).handled
  · rcases unheard with ⟨votes, new⟩
    have attempted : .share position endpoint setting.share ∈ negotiation.attempts := by
      rw [fits.attempts_of_isOpen isOpen]
      rcases List.getElem?_eq_some_iff.mp found with ⟨_, rfl⟩
      exact List.mem_mapIdx.mpr ⟨position, inside, rfl⟩
    have reachable : (negotiation.peers endpoint).conduct.isReachable = true := by
      rw [(fits.peers endpoint).conduct, votes]
      rfl
    refine ⟨.deliver (.share position endpoint setting.share) 0, ?_⟩
    simp [Negotiation.step?, Negotiation.deliver?, attempted, isOpen, reachable, new]
  · have heard : setting.conduct endpoint = .votes →
        .share setting.share ∈ (negotiation.peers endpoint).handled :=
      fun votes => not_not.mp fun new => unheard ⟨votes, new⟩
    obtain ⟨answer, answers⟩ :=
      (fits.peers endpoint).exists_answer (String.ofList endpoint.text) heard
    refine ⟨.shareEnds position, ?_⟩
    rcases negotiation with ⟨⟨stage, levels, state, stopping⟩, attempts, peers⟩
    rcases fits with ⟨stageFits, -, -⟩
    cases stageFits with
    | sharing agreed unanswered =>
        have member : position ∈ unanswered := List.contains_iff_mem.mp isOpen
        simp [Negotiation.step?, Negotiation.answer?, Negotiation.advance?, Agent.step?, round,
          found, answers, member]
    | notifying => cases isOpen
    | published => cases isOpen

/-- A negotiation goes on until the outcome is published. -/
theorem Fits.exists_step (fits : setting.Fits events negotiation)
    (unpublished : ∀ joined, negotiation.agent.stage ≠ .published joined) :
    ∃ event, (negotiation.step? event).isSome = true := by
  have goesOn (position : Nat) (isOpen : negotiation.isOpen position = true) :=
    fits.exists_step_of_isOpen isOpen
  rcases negotiation with ⟨⟨stage, levels, state, stopping⟩, attempts, peers⟩
  rcases fits with ⟨stageFits, -, -⟩
  cases stageFits with
  | sharing agreed unanswered distinct few inside =>
      cases unanswered with
      | nil => exact ⟨.decide, rfl⟩
      | cons position others =>
          exact goesOn position (by simp [Negotiation.isOpen]) (inside position List.mem_cons_self)
  | notifying unsent =>
      cases unsent with
      | nil =>
          refine ⟨.publish, ?_⟩
          simp only [Negotiation.step?, Negotiation.advance?, Option.isSome_map]
          exact Option.isSome_iff_exists.mpr ⟨_, setting.publish_round .pending stopping⟩
      | cons position others =>
          refine ⟨.noticeEnds position, ?_⟩
          simp [Negotiation.step?, Negotiation.advance?, Agent.step?]
  | published => exact absurd rfl (unpublished _)

/-! ## The outcome -/

/-- What a peer has handled, if it has not handled the notice before the share. -/
theorem Fits.handled_cases (fits : setting.Fits events negotiation) {endpoint : Endpoint}
    (inOrder : (negotiation.peers endpoint).InOrder) :
    (negotiation.peers endpoint).handled = [] ∨
    (negotiation.peers endpoint).handled = [.share setting.share] ∨
    (negotiation.peers endpoint).handled = [setting.notice] ∨
    (negotiation.peers endpoint).handled = [.share setting.share, setting.notice] := by
  rcases nodup_pair_cases (fits.peers endpoint).once (fun _ => fits.handled_mem) with
    handled | handled | handled | handled | handled
  · exact .inl handled
  · exact .inr (.inl handled)
  · exact .inr (.inr (.inl handled))
  · exact .inr (.inr (.inr handled))
  · exact absurd handled (inOrder _ _)

section Levels

variable {endpoint : Endpoint}

/-- Whether a peer has staged the share. -/
def Staged (setting : Setting) (negotiation : Negotiation) (endpoint : Endpoint) : Prop :=
  .share setting.share ∈ (negotiation.peers endpoint).handled ∧
  (setting.server endpoint).levels.minimum ≤ setting.share

/-- Whether a peer has handled its notice. -/
def Told (setting : Setting) (negotiation : Negotiation) (endpoint : Endpoint) : Prop :=
  setting.notice ∈ (negotiation.peers endpoint).handled

theorem Fits.levels_of_staged (fits : setting.Fits events negotiation)
    (inOrder : (negotiation.peers endpoint).InOrder) (commits : setting.Commits)
    (staged : setting.Staged negotiation endpoint) (told : setting.Told negotiation endpoint) :
    (negotiation.peers endpoint).server.levels =
      ⟨setting.share, setting.share, (setting.server endpoint).levels.minimum⟩ := by
  rcases staged with ⟨shared, accepted⟩
  have different := setting.notice_ne_share setting.share
  have both : (negotiation.peers endpoint).handled = [.share setting.share, setting.notice] := by
    unfold Told at told
    rcases fits.handled_cases inOrder with handled | handled | handled | handled <;>
      rw [handled] at shared told ⊢
    · cases shared
    · exact absurd (List.mem_singleton.mp told) different
    · exact absurd (List.mem_singleton.mp shared).symm different
  rw [(fits.peers endpoint).levels, both, notice, if_pos commits]
  change ((setting.server endpoint).levels.handle (.share setting.share)).commit = _
  rw [Levels.handle_share_of_le accepted, Levels.commit_stage]

theorem Fits.levels_of_not_staged (fits : setting.Fits events negotiation)
    (isPeer : endpoint ∈ setting.peers) (inOrder : (negotiation.peers endpoint).InOrder)
    (commits : setting.Commits) (unstaged : ¬ setting.Staged negotiation endpoint) :
    (negotiation.peers endpoint).server.levels = (setting.server endpoint).levels := by
  have settled := setting.peersSettled endpoint isPeer
  have refused : .share setting.share ∈ (negotiation.peers endpoint).handled →
      (setting.server endpoint).levels.handle (.share setting.share) =
        (setting.server endpoint).levels :=
    fun shared => Levels.handle_share_of_not_le fun accepted => unstaged ⟨shared, accepted⟩
  rw [(fits.peers endpoint).levels]
  rcases fits.handled_cases inOrder with handled | handled | handled | handled <;>
    rw [handled] at refused ⊢
  · rfl
  · exact refused List.mem_cons_self
  · rw [notice, if_pos commits]
    exact Levels.commit_settled settled
  · rw [notice, if_pos commits]
    change ((setting.server endpoint).levels.handle (.share setting.share)).commit = _
    rw [refused List.mem_cons_self, Levels.commit_settled settled]

theorem Fits.levels_of_rolledBack (fits : setting.Fits events negotiation)
    (isPeer : endpoint ∈ setting.peers) (inOrder : (negotiation.peers endpoint).InOrder)
    (divided : ¬ setting.Commits) (told : setting.Told negotiation endpoint) :
    (negotiation.peers endpoint).server.levels = (setting.server endpoint).levels := by
  have settled := setting.peersSettled endpoint isPeer
  rw [(fits.peers endpoint).levels]
  unfold Told at told
  rcases fits.handled_cases inOrder with handled | handled | handled | handled <;>
    rw [handled] at told ⊢
  · cases told
  · exact absurd (List.mem_singleton.mp told) (setting.notice_ne_share setting.share)
  · rw [notice, if_neg divided]
    exact Levels.rollback_settled settled
  · rw [notice, if_neg divided]
    exact Levels.rollback_share settled

end Levels

/-- Every run after a snapshot is adopted, whatever happens in which order. The
outcome depends on the setting alone. Before the notices go out all share
exchanges have ended, and every peer is sent the same notice once. The joiner and
the peers then hold the share if all agreed; they hold what they held otherwise.
A run goes on until its outcome is published, and has no more than four steps for
each peer and two of its own. -/
theorem negotiation_outcome (setting : Setting) (events : List NegotiationEvent)
    {final : Negotiation}
    (ran : setting.start.run? (.adopt setting.snapshot :: events) = some final)
    (inOrder : ∀ peer ∈ setting.peers, (setting.conduct peer).isLate = true →
      (final.peers peer).InOrder) :
    (∀ joined, final.agent.stage = .published joined →
      (joined = true ↔ setting.Commits) ∧
      final.agent.state = (if joined then .joined setting.share else .rejected) ∧
      final.agent.levels = (if joined then ⟨setting.share, setting.share, setting.levels.minimum⟩
        else setting.levels) ∧
      final.attempts = setting.shares ++ setting.notices ∧
      ∀ peer ∈ setting.peers,
        (joined = true →
          (setting.Staged final peer → setting.Told final peer →
            (final.peers peer).server.levels =
              ⟨setting.share, setting.share, (setting.server peer).levels.minimum⟩) ∧
          (¬ setting.Staged final peer →
            (final.peers peer).server.levels = (setting.server peer).levels)) ∧
        (joined = false → setting.Told final peer →
          (final.peers peer).server.levels = (setting.server peer).levels)) ∧
    (final.attempts = setting.shares ∨
      final.attempts = setting.shares ++ setting.notices ∧
        ∀ position < setting.peers.length, .shareEnds position ∈ events) ∧
    events.length ≤ 4 * setting.peers.length + 2 ∧
    ((∀ joined, final.agent.stage ≠ .published joined) →
      ∃ event, (final.step? event).isSome = true) := by
  rcases Option.bind_eq_some_iff.mp ran with ⟨adopted, opened, rest⟩
  have fits : setting.Fits events final := run_fits (adopted_fits opened) rest
  have allInOrder : ∀ peer ∈ setting.peers, (final.peers peer).InOrder := by
    intro peer member
    cases late : (setting.conduct peer).isLate with
    | true => exact inOrder peer member late
    | false => exact (fits.peers peer).inOrder late
  refine ⟨fun joined published => ?_, fits.stage.attempts_cases, fits.length_le,
    fits.exists_step⟩
  have stage := fits.stage
  rw [published] at stage
  rcases stage.of_published with ⟨rfl, state, levels, attempts⟩
  simp only [decide_eq_true_iff, decide_eq_false_iff_not]
  refine ⟨trivial, state, levels, attempts, fun peer member => ⟨fun commits => ⟨?_, ?_⟩, ?_⟩⟩
  · exact fits.levels_of_staged (allInOrder peer member) commits
  · exact fits.levels_of_not_staged member (allInOrder peer member) commits
  · exact fits.levels_of_rolledBack member (allInOrder peer member)

/-- One peer votes, and one stages its share too late. -/
def oneLate : Setting where
  snapshot := ⟨[.v4 .loopback 7001, .v4 .loopback 7002], 300⟩
  levels := ⟨40, 40, 30⟩
  conduct := fun peer => if peer = .v4 .loopback 7001 then .votes else .late ⟨500⟩
  server := fun _ => .initial 80 16
  distinct := by decide
  settled := rfl
  peersSettled := fun _ _ => rfl

theorem negotiation_outcome_oneLate :
    ∃ final,
      oneLate.start.run? (.adopt oneLate.snapshot ::
        [.deliver (.share 0 (.v4 .loopback 7001) 100) 0, .shareEnds 1,
          .deliver (.share 1 (.v4 .loopback 7002) 100) 0, .shareEnds 0, .decide,
          .deliver (.notice 1 (.v4 .loopback 7002) .rollback) 0, .noticeEnds 1, .noticeEnds 0,
          .publish]) = some final ∧
      final.agent.levels = ⟨40, 40, 30⟩ ∧
      (final.peers (.v4 .loopback 7002)).server.levels = ⟨0, 0, 80⟩ := by
  have possible : (oneLate.start.run? (.adopt oneLate.snapshot ::
      [.deliver (.share 0 (.v4 .loopback 7001) 100) 0, .shareEnds 1,
        .deliver (.share 1 (.v4 .loopback 7002) 100) 0, .shareEnds 0, .decide,
        .deliver (.notice 1 (.v4 .loopback 7002) .rollback) 0, .noticeEnds 1, .noticeEnds 0,
        .publish])).any (fun final => decide (final.agent.stage = .published false ∧
          (final.peers (.v4 .loopback 7002)).handled = [.share 100, .rollback])) = true := by
    decide +kernel
  rcases (Option.any_eq_true _ _).mp possible with ⟨final, ran, reached⟩
  rcases of_decide_eq_true reached with ⟨published, handled⟩
  have inOrder : ∀ peer ∈ oneLate.peers, (oneLate.conduct peer).isLate = true →
      (final.peers peer).InOrder := by
    intro peer member late
    rcases List.mem_pair.mp member with rfl | rfl
    · cases late
    · intro notice value same
      rw [handled] at same
      cases same
  rcases (negotiation_outcome oneLate _ ran inOrder).1 false published with ⟨-, -, levels, -, peers⟩
  have told : oneLate.Told final (.v4 .loopback 7002) := by
    unfold Told
    rw [handled]
    decide
  exact ⟨final, ran, levels, (peers (.v4 .loopback 7002) (by decide)).2 rfl told⟩

end Setting

end ArithmeticCloud.Joining
