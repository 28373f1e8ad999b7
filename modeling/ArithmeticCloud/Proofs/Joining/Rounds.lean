import ArithmeticCloud.Joining.Round
import ArithmeticCloud.Proofs.Node.Peers
import ArithmeticCloud.Proofs.Transport.Lines

/-!
Contract: a join round in which every peer serves.

Owns: the agreement and the levels of all nodes after each of the two phases, and
after the whole round when no share was staged before.

Does not own: peers that do not answer, and rounds that overlap.
-/

namespace ArithmeticCloud.Joining

open Network Node Transport Wire

/-- A vote that is sent back arrives. -/
theorem readVote_encode (peer : String) (vote : Vote) :
    readVote peer (streamOf [vote.encode]) = .ok vote := by
  refine readAnswer_streamOf "share" peer ?_ [] (Vote.decode?_encode vote)
  cases vote <;> decide

theorem isVeto_offer (levels : Levels) (value : UInt64) :
    isVeto (.ok (levels.offer value).1) = !decide (levels.minimum ≤ value) := by
  rw [Levels.vote_offer]
  by_cases accepted : levels.minimum ≤ value
  · rw [if_pos accepted, decide_eq_true accepted]
    rfl
  · rw [if_neg accepted, decide_eq_false accepted]
    rfl

theorem overConnections_share {nodes : Nodes} {peer : Endpoint} {levels : Levels}
    (known : nodes.levels? peer = some levels) (now : Int64) (value : UInt64) :
    (Contact.overConnections now).share nodes peer value =
      (.ok (levels.offer value).1, (nodes.ask now peer (.share value)).2) := by
  have answered := Nodes.ask_share known now value
  simp only [Contact.overConnections]
  generalize nodes.ask now peer (.share value) = result at answered ⊢
  rcases result with ⟨answer, after⟩
  obtain rfl : answer = .ok (streamOf [(levels.offer value).1.encode]) := answered
  simp only [readVote_encode]

namespace JoinRound

/-! ## Shares and notices -/

theorem peers_shareWith {σ : Type} (contact : Contact σ) (peers : List Endpoint)
    (round : JoinRound) (state : σ) :
    (shareWith contact peers round state).1.peers = round.peers := by
  induction peers generalizing round state with
  | nil => rfl
  | cons peer others inductionHypothesis => exact inductionHypothesis _ _

theorem proposed_shareWith {σ : Type} (contact : Contact σ) (peers : List Endpoint)
    (round : JoinRound) (state : σ) :
    (shareWith contact peers round state).1.proposed = round.proposed := by
  induction peers generalizing round state with
  | nil => rfl
  | cons peer others inductionHypothesis => exact inductionHypothesis _ _

variable {levels : Endpoint → Levels} {peers : List Endpoint}

/-- Whether the joiner and all of these peers accept the share. -/
def Unanimous (levels : Endpoint → Levels) (peers : List Endpoint) (round : JoinRound) : Prop :=
  round.agreed = true ∧ ∀ peer ∈ peers, (levels peer).minimum ≤ round.proposed

/-- Every peer votes and stages what it accepts. -/
theorem shareWith_serving (now : Int64) (distinct : peers.Nodup) (round : JoinRound)
    (nodes : Nodes) (serving : ∀ peer ∈ peers, nodes.levels? peer = some (levels peer)) :
    ((shareWith (.overConnections now) peers round nodes).1.agreed = true ↔
      round.Unanimous levels peers) ∧
    ∀ endpoint, (shareWith (.overConnections now) peers round nodes).2.levels? endpoint =
      if endpoint ∈ peers then some ((levels endpoint).handle (.share round.proposed))
      else nodes.levels? endpoint := by
  induction peers generalizing round nodes with
  | nil => simp [shareWith, Unanimous]
  | cons peer others inductionHypothesis =>
      rcases List.nodup_cons.mp distinct with ⟨fresh, othersDistinct⟩
      have known := serving peer List.mem_cons_self
      have stepped : shareWith (.overConnections now) (peer :: others) round nodes =
          shareWith (.overConnections now) others
            (round.hear (.ok ((levels peer).offer round.proposed).1))
            (nodes.ask now peer (.share round.proposed)).2 := by
        rw [shareWith, overConnections_share known]
      have stillServing : ∀ other ∈ others,
          (nodes.ask now peer (.share round.proposed)).2.levels? other = some (levels other) := by
        intro other member
        rw [Nodes.levels?_ask known, if_neg (ne_of_mem_of_not_mem member fresh)]
        exact serving other (List.mem_cons_of_mem peer member)
      obtain ⟨agreed, after⟩ := inductionHypothesis othersDistinct
        (round.hear (.ok ((levels peer).offer round.proposed).1)) _ stillServing
      rw [stepped]
      refine ⟨?_, fun endpoint => ?_⟩
      · rw [agreed]
        simp only [Unanimous, hear, isVeto_offer, Bool.not_not, Bool.and_eq_true,
          decide_eq_true_eq, List.forall_mem_cons, and_assoc]
      · rw [after, Nodes.levels?_ask known]
        by_cases same : endpoint = peer
        · subst endpoint
          rw [if_neg fresh, if_pos rfl, if_pos List.mem_cons_self]
        · simp only [List.mem_cons, same, false_or, hear, if_false]

/-- Every peer handles the notice. -/
theorem tellAll_serving (now : Int64) (notice : NodeRequest) (distinct : peers.Nodup)
    (nodes : Nodes) (serving : ∀ peer ∈ peers, nodes.levels? peer = some (levels peer))
    (endpoint : Endpoint) :
    (tellAll (.overConnections now) notice peers nodes).levels? endpoint =
      if endpoint ∈ peers then some ((levels endpoint).handle notice)
      else nodes.levels? endpoint := by
  induction peers generalizing nodes with
  | nil => simp [tellAll]
  | cons peer others inductionHypothesis =>
      rcases List.nodup_cons.mp distinct with ⟨fresh, othersDistinct⟩
      have known := serving peer List.mem_cons_self
      have stillServing : ∀ other ∈ others,
          (nodes.tell now peer notice).2.levels? other = some (levels other) := by
        intro other member
        rw [Nodes.levels?_tell known, if_neg (ne_of_mem_of_not_mem member fresh)]
        exact serving other (List.mem_cons_of_mem peer member)
      have after := inductionHypothesis othersDistinct _ stillServing
      change (tellAll (.overConnections now) notice others
        (nodes.tell now peer notice).2).levels? endpoint = _
      rw [after, Nodes.levels?_tell known]
      by_cases same : endpoint = peer
      · subst endpoint
        rw [if_neg fresh, if_pos rfl, if_pos List.mem_cons_self]
      · simp only [List.mem_cons, same, false_or, if_false]

/-- Every peer has handled the share and then the notice. -/
theorem tellAll_shareWith (now : Int64) (distinct : peers.Nodup) (round : JoinRound)
    (nodes : Nodes) (serving : ∀ peer ∈ peers, nodes.levels? peer = some (levels peer))
    (notice : NodeRequest) (endpoint : Endpoint) :
    (tellAll (.overConnections now) notice peers
      (shareWith (.overConnections now) peers round nodes).2).levels? endpoint =
        if endpoint ∈ peers then
          some (((levels endpoint).handle (.share round.proposed)).handle notice)
        else nodes.levels? endpoint := by
  rcases shareWith_serving now distinct round nodes serving with ⟨-, shared⟩
  have staged : ∀ peer ∈ peers,
      (shareWith (.overConnections now) peers round nodes).2.levels? peer =
        some ((levels peer).handle (.share round.proposed)) := by
    intro peer member
    rw [shared, if_pos member]
  rw [tellAll_serving now notice distinct _ staged]
  split
  · rfl
  · next outside => rw [shared, if_neg outside]

/-- If all agree then everyone holds the share. -/
theorem run_unanimous (now : Int64) {round : JoinRound} (own : Levels) {nodes : Nodes}
    (distinct : round.peers.Nodup)
    (serving : ∀ peer ∈ round.peers, nodes.levels? peer = some (levels peer))
    (unanimous : round.Unanimous levels round.peers) :
    ∃ after, round.run (.overConnections now) own nodes =
        (.committed round.proposed, ⟨round.proposed, round.proposed, own.minimum⟩, after) ∧
      ∀ endpoint, after.levels? endpoint =
        if endpoint ∈ round.peers then
          some ⟨round.proposed, round.proposed, (levels endpoint).minimum⟩
        else nodes.levels? endpoint := by
  rcases shareWith_serving now distinct round nodes serving with ⟨agreed, -⟩
  have yes := agreed.mpr unanimous
  refine ⟨tellAll (.overConnections now) (.commit round.proposed) round.peers
    (shareWith (.overConnections now) round.peers round nodes).2, ?_, fun endpoint => ?_⟩
  · simp only [run, notice, settle, yes, proposed_shareWith, peers_shareWith, if_true]
    rfl
  · rw [tellAll_shareWith now distinct round nodes serving]
    split
    · next member =>
        rw [Levels.handle_share_of_le (unanimous.2 endpoint member)]
        rfl
    · rfl

/-- Otherwise everyone holds what they held, if nothing was staged before. -/
theorem run_divided (now : Int64) {round : JoinRound} (own : Levels) {nodes : Nodes}
    (distinct : round.peers.Nodup) (settled : own.Settled)
    (serving : ∀ peer ∈ round.peers, nodes.levels? peer = some (levels peer))
    (peersSettled : ∀ peer ∈ round.peers, (levels peer).Settled)
    (divided : ¬ round.Unanimous levels round.peers) :
    ∃ after, round.run (.overConnections now) own nodes =
        (.rolledBack own.committed, own, after) ∧
      ∀ endpoint, after.levels? endpoint = nodes.levels? endpoint := by
  rcases shareWith_serving now distinct round nodes serving with ⟨agreed, -⟩
  have no := mt agreed.mp divided
  refine ⟨tellAll (.overConnections now) .rollback round.peers
    (shareWith (.overConnections now) round.peers round nodes).2, ?_, fun endpoint => ?_⟩
  · simp only [run, notice, settle, no, proposed_shareWith, peers_shareWith, if_false,
      Bool.false_eq_true, Levels.rollback_stage settled]
  · rw [tellAll_shareWith now distinct round nodes serving]
    split
    · next member =>
        change some ((levels endpoint).handle (.share round.proposed)).rollback = _
        rw [Levels.rollback_share (peersSettled endpoint member), serving endpoint member]
    · rfl

/-! ## Which endpoints are known -/

theorem endpoints_ask (nodes : Nodes) (now : Int64) (peer : Endpoint) (request : NodeRequest) :
    (nodes.ask now peer request).2.entries.map Prod.fst = nodes.entries.map Prod.fst :=
  nodes.endpoints_set peer _

theorem endpoints_shareWith (now : Int64) (peers : List Endpoint) (round : JoinRound)
    (nodes : Nodes) : (shareWith (.overConnections now) peers round nodes).2.entries.map Prod.fst =
      nodes.entries.map Prod.fst := by
  induction peers generalizing round nodes with
  | nil => rfl
  | cons peer others inductionHypothesis =>
      rw [shareWith, inductionHypothesis]
      simp only [Contact.overConnections]
      have kept := endpoints_ask nodes now peer (.share round.proposed)
      generalize nodes.ask now peer (.share round.proposed) = result at kept ⊢
      rcases result with ⟨answer, after⟩
      cases answer <;> exact kept

theorem endpoints_tellAll (now : Int64) (notice : NodeRequest) (peers : List Endpoint)
    (nodes : Nodes) : (tellAll (.overConnections now) notice peers nodes).entries.map Prod.fst =
      nodes.entries.map Prod.fst := by
  induction peers generalizing nodes with
  | nil => rfl
  | cons peer others inductionHypothesis =>
      rw [tellAll, inductionHypothesis]
      exact nodes.endpoints_set peer _

theorem endpoints_run (now : Int64) (round : JoinRound) (own : Levels) (nodes : Nodes) :
    (round.run (.overConnections now) own nodes).2.2.entries.map Prod.fst =
      nodes.entries.map Prod.fst := by
  simp only [run]
  rw [endpoints_tellAll, endpoints_shareWith]

end JoinRound

end ArithmeticCloud.Joining
