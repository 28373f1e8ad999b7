import ArithmeticCloud.Cloud
import ArithmeticCloud.Proofs.Joining.Rounds
import Mathlib

/-!
Contract: the shares of a cloud that nodes join one after the other.

Owns:
- `Cloud.Even`: every registered node holds the equal share of the ceiling,
  committed and not less than it accepts, and nothing else is staged anywhere.
  Every attempt keeps it, whether it commits or not;
- what an attempt to join comes to.

Does not own: attempts that overlap, and nodes that go offline.
-/

namespace ArithmeticCloud

open Billing Fleet Joining Network Node Service Wire

namespace Cloud

variable {cloud : Cloud} {newcomer : Newcomer}

/-! ## A new node -/

theorem levels?_withNode {nodes : Nodes} (levels : Levels)
    (fresh : newcomer.endpoint ∉ nodes.entries.map Prod.fst) (endpoint : Endpoint) :
    (withNode nodes newcomer levels).levels? endpoint =
      if endpoint = newcomer.endpoint then some levels else nodes.levels? endpoint := by
  unfold Nodes.levels? Nodes.get withNode
  rw [List.lookup_append]
  by_cases same : endpoint = newcomer.endpoint
  · have unknown : nodes.entries.lookup endpoint = none := by
      rw [List.lookup_eq_none_iff]
      intro entry member
      rw [bne_iff_ne, same]
      intro known
      exact fresh (known ▸ List.mem_map_of_mem member)
    rw [unknown, if_pos same, same]
    simp [Remote.server?]
  · have other : (endpoint == newcomer.endpoint) = false := by simpa using same
    rw [if_neg same]
    simp [List.lookup_cons, other]

/-- The first sign of life of a node adds a record at the end. -/
theorem records_upsert {registry : Registry} (now : Int64)
    (fresh : newcomer.endpoint ∉ registry.records.map NodeRecord.endpoint) :
    (registry.upsert newcomer.address newcomer.port newcomer.operators now).records =
      registry.records ++
        [⟨newcomer.address, newcomer.port, newcomer.operators, 0, true, now⟩] := by
  have unknown : registry.find? newcomer.endpoint = none := by
    unfold Registry.find?
    rw [List.find?_eq_none]
    intro record member same
    rw [beq_iff_eq] at same
    exact fresh (same ▸ List.mem_map_of_mem member)
  change (if (registry.find? newcomer.endpoint).isSome then _ else _ : Registry).records = _
  rw [unknown]
  rfl

theorem endpoints_upsert {registry : Registry} (now : Int64)
    (fresh : newcomer.endpoint ∉ registry.records.map NodeRecord.endpoint) :
    (registry.upsert newcomer.address newcomer.port newcomer.operators now).records.map
        NodeRecord.endpoint =
      registry.records.map NodeRecord.endpoint ++ [newcomer.endpoint] := by
  rw [records_upsert now fresh, List.map_append]
  rfl

theorem endpoints_withNode (nodes : Nodes) (newcomer : Newcomer) (levels : Levels) :
    (withNode nodes newcomer levels).entries.map Prod.fst =
      nodes.entries.map Prod.fst ++ [newcomer.endpoint] := by
  simp only [withNode, List.map_append, List.map_cons, List.map_nil]

/-! ## The invariant -/

/-- The equal share of a number of nodes. -/
def shareOf (ceiling : UInt64) (count : Nat) : UInt64 := UInt64.ofNat (ceiling.toNat / count)

theorem toNat_shareOf (ceiling : UInt64) (count : Nat) :
    (shareOf ceiling count).toNat = ceiling.toNat / count := by
  unfold shareOf
  rw [UInt64.toNat_ofNat']
  exact Nat.mod_eq_of_lt (lt_of_le_of_lt (Nat.div_le_self _ _) ceiling.toNat_lt)

/-- The registered nodes share the ceiling evenly. -/
structure Even (ceiling : UInt64) (newcomers : List Newcomer) (cloud : Cloud) : Prop where
  sameCeiling : cloud.ceiling = ceiling
  known : cloud.nodes.entries.map Prod.fst = newcomers.map Newcomer.endpoint
  online : ∀ record ∈ cloud.registry.records, record.online = true
  distinct : (cloud.registry.records.map NodeRecord.endpoint).Nodup
  holds : ∀ record ∈ cloud.registry.records, ∃ newcomer ∈ newcomers,
    newcomer.endpoint = record.endpoint ∧
    newcomer.minimum ≤ shareOf ceiling cloud.registry.records.length ∧
    cloud.levels? record.endpoint =
      some ⟨shareOf ceiling cloud.registry.records.length,
        shareOf ceiling cloud.registry.records.length, newcomer.minimum⟩

theorem Even.start (ceiling : UInt64) (users : List User) :
    Even ceiling [] (Controller.start ceiling users ⟨[]⟩) where
  sameCeiling := rfl
  known := rfl
  online := fun _ member => nomatch member
  distinct := List.nodup_nil
  holds := fun _ member => nomatch member

namespace Even

variable {ceiling : UInt64} {newcomers : List Newcomer}

theorem peers_eq (even : cloud.Even ceiling newcomers) :
    (cloud.registry.snapshot cloud.ceiling).peers =
      cloud.registry.records.map NodeRecord.endpoint := by
  unfold Registry.snapshot Registry.onlineEndpoints
  rw [List.filter_eq_self.mpr even.online]

theorem proposed_eq (even : cloud.Even ceiling newcomers) :
    (cloud.registry.snapshot cloud.ceiling).proposedShare =
      shareOf ceiling (cloud.registry.records.length + 1) := by
  unfold Snapshot.proposedShare shareOf
  rw [even.peers_eq, List.length_map]
  change UInt64.ofNat (cloud.ceiling.toNat / _) = _
  rw [even.sameCeiling]

theorem unregistered (even : cloud.Even ceiling newcomers)
    (fresh : newcomer.endpoint ∉ newcomers.map Newcomer.endpoint) :
    newcomer.endpoint ∉ cloud.registry.records.map NodeRecord.endpoint := by
  intro registered
  rcases List.mem_map.mp registered with ⟨record, member, same⟩
  rcases even.holds record member with ⟨earlier, joined, sameEndpoint, -⟩
  exact fresh (List.mem_map.mpr ⟨earlier, joined, sameEndpoint.trans same⟩)

end Even

/-! ## One attempt -/

/-- The round of an attempt. -/
def roundOf (cloud : Cloud) (newcomer : Newcomer) : JoinRound :=
  .ofSnapshot (cloud.registry.snapshot cloud.ceiling) newcomer.minimum

/-- Whether the joiner and every registered node accept the share that an attempt
proposes. -/
def Welcome (cloud : Cloud) (newcomer : Newcomer) : Prop :=
  newcomer.minimum ≤ shareOf cloud.ceiling (cloud.registry.records.length + 1) ∧
  ∀ record ∈ cloud.registry.records, ∀ levels, cloud.levels? record.endpoint = some levels →
    levels.minimum ≤ shareOf cloud.ceiling (cloud.registry.records.length + 1)

theorem join_of_committed {now : Int64} {share : UInt64} {levels : Levels} {nodes : Nodes}
    (ran : (roundOf cloud newcomer).run (.overConnections now) (.initial newcomer.minimum)
      cloud.nodes = (.committed share, levels, nodes)) :
    cloud.join now newcomer = (.committed share, { cloud with
      nodes := withNode nodes newcomer levels
      registry :=
        cloud.registry.upsert newcomer.address newcomer.port newcomer.operators now }) := by
  unfold roundOf at ran
  simp only [join, ran]

theorem join_of_rolledBack {now : Int64} {share : UInt64} {levels : Levels} {nodes : Nodes}
    (ran : (roundOf cloud newcomer).run (.overConnections now) (.initial newcomer.minimum)
      cloud.nodes = (.rolledBack share, levels, nodes)) :
    cloud.join now newcomer = (.rolledBack share, { cloud with
      nodes := withNode nodes newcomer levels }) := by
  unfold roundOf at ran
  simp only [join, ran]

section Attempt

variable {ceiling : UInt64} {newcomers : List Newcomer}

/-- The levels of the node at an endpoint, if one is known. -/
def levelsOf (cloud : Cloud) (endpoint : Endpoint) : Levels :=
  (cloud.levels? endpoint).getD (.initial 0)

theorem Even.levelsOf_eq (even : cloud.Even ceiling newcomers) {endpoint : Endpoint}
    (registered : endpoint ∈ cloud.registry.records.map NodeRecord.endpoint) :
    cloud.levels? endpoint = some (cloud.levelsOf endpoint) := by
  rcases List.mem_map.mp registered with ⟨record, member, rfl⟩
  rcases even.holds record member with ⟨_, _, _, _, found⟩
  rw [levelsOf, found, Option.getD_some]

theorem Even.settled (even : cloud.Even ceiling newcomers) {endpoint : Endpoint}
    (registered : endpoint ∈ cloud.registry.records.map NodeRecord.endpoint) :
    (cloud.levelsOf endpoint).Settled := by
  rcases List.mem_map.mp registered with ⟨record, member, rfl⟩
  rcases even.holds record member with ⟨_, _, _, _, found⟩
  rw [levelsOf, found, Option.getD_some]
  rfl

theorem Even.unanimous_iff (even : cloud.Even ceiling newcomers) :
    (roundOf cloud newcomer).Unanimous cloud.levelsOf (roundOf cloud newcomer).peers ↔
      cloud.Welcome newcomer := by
  have peers : (roundOf cloud newcomer).peers =
      cloud.registry.records.map NodeRecord.endpoint := even.peers_eq
  have proposed : (roundOf cloud newcomer).proposed =
      shareOf cloud.ceiling (cloud.registry.records.length + 1) := by
    rw [even.sameCeiling]
    exact even.proposed_eq
  have agreed : (roundOf cloud newcomer).agreed = true ↔
      newcomer.minimum ≤ (roundOf cloud newcomer).proposed := decide_eq_true_iff
  unfold JoinRound.Unanimous Welcome
  rw [agreed, proposed, peers, List.forall_mem_map]
  refine and_congr_right fun _ => forall₂_congr fun record member => ?_
  rw [even.levelsOf_eq (List.mem_map_of_mem member)]
  simp

/-- A round brings no node and takes none away. -/
theorem Even.known_of_run (even : cloud.Even ceiling newcomers) {now : Int64}
    {outcome : JoinOutcome} {levels : Levels} {nodes : Nodes}
    (ran : (roundOf cloud newcomer).run (.overConnections now) (.initial newcomer.minimum)
      cloud.nodes = (outcome, levels, nodes)) :
    nodes.entries.map Prod.fst = newcomers.map Newcomer.endpoint := by
  rw [← even.known, ← JoinRound.endpoints_run now (roundOf cloud newcomer)
    (.initial newcomer.minimum) cloud.nodes, ran]

/-- What an attempt comes to when everyone accepts the share. -/
theorem join_welcome (now : Int64) (even : cloud.Even ceiling newcomers)
    (fresh : newcomer.endpoint ∉ newcomers.map Newcomer.endpoint)
    (welcome : cloud.Welcome newcomer) :
    (cloud.join now newcomer).1 =
        .committed (shareOf ceiling (cloud.registry.records.length + 1)) ∧
      (cloud.join now newcomer).2.registry.records.map NodeRecord.endpoint =
        cloud.registry.records.map NodeRecord.endpoint ++ [newcomer.endpoint] ∧
      (cloud.join now newcomer).2.Even ceiling (newcomers ++ [newcomer]) := by
  have peers : (roundOf cloud newcomer).peers =
      cloud.registry.records.map NodeRecord.endpoint := even.peers_eq
  have proposed : (roundOf cloud newcomer).proposed =
      shareOf ceiling (cloud.registry.records.length + 1) := even.proposed_eq
  have absent := even.unregistered fresh
  obtain ⟨nodes, ran, after⟩ := JoinRound.run_unanimous now (.initial newcomer.minimum)
    (peers ▸ even.distinct) (fun peer member => even.levelsOf_eq (peers ▸ member))
    (even.unanimous_iff.mpr welcome)
  have known := even.known_of_run ran
  rw [proposed] at ran after
  rw [join_of_committed ran]
  have records := records_upsert now absent
  have endpoints := endpoints_upsert now absent
  have levels := levels?_withNode
    ⟨shareOf ceiling (cloud.registry.records.length + 1),
      shareOf ceiling (cloud.registry.records.length + 1), newcomer.minimum⟩ (known ▸ fresh)
  refine ⟨rfl, endpoints, even.sameCeiling, ?_, ?_, ?_, ?_⟩
  · rw [endpoints_withNode, known, List.map_append]
    rfl
  · intro record member
    rw [records, List.mem_append, List.mem_singleton] at member
    rcases member with earlier | rfl
    · exact even.online record earlier
    · rfl
  · change ((cloud.registry.upsert _ _ _ _).records.map NodeRecord.endpoint).Nodup
    rw [endpoints]
    refine List.nodup_append.mpr ⟨even.distinct, List.nodup_singleton _, ?_⟩
    intro earlier registered last isLast same
    rw [List.mem_singleton] at isLast
    have isNewcomer : earlier = newcomer.endpoint := same.trans isLast
    exact absent (isNewcomer ▸ registered)
  · have count : (cloud.registry.upsert newcomer.address newcomer.port newcomer.operators
        now).records.length = cloud.registry.records.length + 1 := by
      rw [records, List.length_append, List.length_singleton]
    rw [count]
    intro record member
    rw [records, List.mem_append, List.mem_singleton] at member
    rcases member with earlier | rfl
    · have registered := List.mem_map_of_mem (f := NodeRecord.endpoint) earlier
      have others : record.endpoint ≠ newcomer.endpoint := ne_of_mem_of_not_mem registered absent
      rcases even.holds record earlier with ⟨holder, joined, same, -, found⟩
      refine ⟨holder, List.mem_append_left _ joined, same, ?_, ?_⟩
      · have accepts := welcome.2 record earlier _ found
        rwa [even.sameCeiling] at accepts
      · have minimum : (cloud.levelsOf record.endpoint).minimum = holder.minimum := by
          rw [levelsOf, found, Option.getD_some]
        change (withNode nodes newcomer ⟨_, _, newcomer.minimum⟩).levels? record.endpoint = _
        rw [levels, if_neg others, after, if_pos (peers ▸ registered), minimum]
    · refine ⟨newcomer, List.mem_append_right _ (List.mem_singleton_self _), rfl, ?_, ?_⟩
      · have accepts := welcome.1
        rwa [even.sameCeiling] at accepts
      · change (withNode nodes newcomer ⟨_, _, newcomer.minimum⟩).levels? newcomer.endpoint = _
        rw [levels, if_pos rfl]

/-- What an attempt comes to otherwise. -/
theorem join_unwelcome (now : Int64) (even : cloud.Even ceiling newcomers)
    (fresh : newcomer.endpoint ∉ newcomers.map Newcomer.endpoint)
    (unwelcome : ¬ cloud.Welcome newcomer) :
    (cloud.join now newcomer).1 = .rolledBack 0 ∧
      (cloud.join now newcomer).2.registry = cloud.registry ∧
      (∀ endpoint, (cloud.join now newcomer).2.levels? endpoint =
        if endpoint = newcomer.endpoint then some (.initial newcomer.minimum)
        else cloud.levels? endpoint) ∧
      (cloud.join now newcomer).2.Even ceiling (newcomers ++ [newcomer]) := by
  have peers : (roundOf cloud newcomer).peers =
      cloud.registry.records.map NodeRecord.endpoint := even.peers_eq
  obtain ⟨nodes, ran, after⟩ := JoinRound.run_divided now (.initial newcomer.minimum)
    (peers ▸ even.distinct) rfl (fun peer member => even.levelsOf_eq (peers ▸ member))
    (fun peer member => even.settled (peers ▸ member)) (mt even.unanimous_iff.mp unwelcome)
  have known := even.known_of_run ran
  rw [join_of_rolledBack ran]
  have levels (endpoint : Endpoint) :
      (withNode nodes newcomer (.initial newcomer.minimum)).levels? endpoint =
        if endpoint = newcomer.endpoint then some (.initial newcomer.minimum)
        else cloud.levels? endpoint := by
    rw [levels?_withNode _ (known ▸ fresh), after]
    rfl
  refine ⟨rfl, rfl, levels, even.sameCeiling, ?_, even.online, even.distinct, ?_⟩
  · rw [endpoints_withNode, known, List.map_append]
    rfl
  · intro record member
    have others : record.endpoint ≠ newcomer.endpoint :=
      ne_of_mem_of_not_mem (List.mem_map_of_mem member) (even.unregistered fresh)
    rcases even.holds record member with ⟨holder, joined, same, accepts, found⟩
    refine ⟨holder, List.mem_append_left _ joined, same, accepts, ?_⟩
    change (withNode nodes newcomer _).levels? record.endpoint = _
    rw [levels, if_neg others]
    exact found

theorem Even.join (now : Int64) (even : cloud.Even ceiling newcomers)
    (fresh : newcomer.endpoint ∉ newcomers.map Newcomer.endpoint) :
    (cloud.join now newcomer).2.Even ceiling (newcomers ++ [newcomer]) := by
  by_cases welcome : cloud.Welcome newcomer
  · exact (join_welcome now even fresh welcome).2.2
  · exact (join_unwelcome now even fresh welcome).2.2.2

/-- The next attempt is welcome if everyone accepts the next share. -/
theorem Even.welcome_iff (even : cloud.Even ceiling newcomers) (newcomer : Newcomer) :
    cloud.Welcome newcomer ↔
      newcomer.minimum.toNat ≤ ceiling.toNat / (cloud.registry.records.length + 1) ∧
      ∀ record ∈ cloud.registry.records,
        (cloud.levelsOf record.endpoint).minimum.toNat ≤
          ceiling.toNat / (cloud.registry.records.length + 1) := by
  unfold Welcome
  rw [even.sameCeiling, UInt64.le_iff_toNat_le, toNat_shareOf]
  refine and_congr_right fun _ => forall₂_congr fun record member => ?_
  rw [even.levelsOf_eq (List.mem_map_of_mem member)]
  simp only [Option.some.injEq, forall_eq', UInt64.le_iff_toNat_le, toNat_shareOf]

/-- The shares do not exceed the ceiling together. -/
theorem Even.sum_committed_le (even : cloud.Even ceiling newcomers) :
    (cloud.registry.records.map fun record =>
      (cloud.levelsOf record.endpoint).committed.toNat).sum ≤ ceiling.toNat := by
  have equal : (cloud.registry.records.map fun record =>
      (cloud.levelsOf record.endpoint).committed.toNat) =
        List.replicate cloud.registry.records.length
          (ceiling.toNat / cloud.registry.records.length) := by
    refine List.map_eq_replicate_iff.mpr fun record member => ?_
    rcases even.holds record member with ⟨_, _, _, _, found⟩
    rw [levelsOf, found, Option.getD_some]
    exact toNat_shareOf ceiling cloud.registry.records.length
  rw [equal, List.sum_replicate, smul_eq_mul]
  exact Nat.mul_div_le ceiling.toNat cloud.registry.records.length

/-- An attempt commits if and only if it is welcome. -/
theorem Even.committed_iff (now : Int64) (even : cloud.Even ceiling newcomers)
    (fresh : newcomer.endpoint ∉ newcomers.map Newcomer.endpoint) :
    (∃ share, (cloud.join now newcomer).1 = .committed share) ↔ cloud.Welcome newcomer := by
  constructor
  · rintro ⟨share, committed⟩
    by_contra unwelcome
    rw [(join_unwelcome now even fresh unwelcome).1] at committed
    cases committed
  · intro welcome
    exact ⟨_, (join_welcome now even fresh welcome).1⟩

/-- An attempt that commits brings one more node, and the next equal share. -/
theorem Even.registered_of_committed {now : Int64} (even : cloud.Even ceiling newcomers)
    (fresh : newcomer.endpoint ∉ newcomers.map Newcomer.endpoint) {share : UInt64}
    (committed : (cloud.join now newcomer).1 = .committed share) :
    share.toNat = ceiling.toNat / (cloud.registry.records.length + 1) ∧
    (cloud.join now newcomer).2.registry.records.map NodeRecord.endpoint =
      cloud.registry.records.map NodeRecord.endpoint ++ [newcomer.endpoint] := by
  have welcome := (even.committed_iff now fresh).mp ⟨share, committed⟩
  rcases join_welcome now even fresh welcome with ⟨same, endpoints, -⟩
  rw [committed] at same
  rw [JoinOutcome.committed.inj same]
  exact ⟨toNat_shareOf ceiling _, endpoints⟩

/-- An attempt that rolls back leaves every registered node as it was. -/
theorem Even.unchanged_of_rolledBack {now : Int64} (even : cloud.Even ceiling newcomers)
    (fresh : newcomer.endpoint ∉ newcomers.map Newcomer.endpoint) {share : UInt64}
    (rolledBack : (cloud.join now newcomer).1 = .rolledBack share) :
    (cloud.join now newcomer).2.registry = cloud.registry ∧
    (∀ record ∈ cloud.registry.records,
      (cloud.join now newcomer).2.levels? record.endpoint = cloud.levels? record.endpoint) ∧
    (cloud.join now newcomer).2.levels? newcomer.endpoint = some ⟨0, 0, newcomer.minimum⟩ := by
  have unwelcome : ¬ cloud.Welcome newcomer := by
    intro welcome
    rw [(join_welcome now even fresh welcome).1] at rolledBack
    cases rolledBack
  rcases join_unwelcome now even fresh unwelcome with ⟨-, registry, levels, -⟩
  refine ⟨registry, fun record member => ?_, ?_⟩
  · have others : record.endpoint ≠ newcomer.endpoint :=
      ne_of_mem_of_not_mem (List.mem_map_of_mem member) (even.unregistered fresh)
    rw [levels, if_neg others]
  · rw [levels, if_pos rfl]
    rfl

end Attempt

/-! ## Attempts one after the other -/

/-- Attempts in turn, each at its time. -/
def joinAll (cloud : Cloud) (attempts : List (Int64 × Newcomer)) : Cloud :=
  attempts.foldl (fun cloud attempt => (cloud.join attempt.1 attempt.2).2) cloud

theorem Even.joinAll {ceiling : UInt64} {newcomers : List Newcomer} {cloud : Cloud}
    (even : cloud.Even ceiling newcomers) (attempts : List (Int64 × Newcomer))
    (distinct : ((newcomers ++ attempts.map Prod.snd).map Newcomer.endpoint).Nodup) :
    (cloud.joinAll attempts).Even ceiling (newcomers ++ attempts.map Prod.snd) := by
  induction attempts generalizing newcomers cloud with
  | nil =>
      rw [List.map_nil, List.append_nil]
      exact even
  | cons attempt others inductionHypothesis =>
      rcases attempt with ⟨now, newcomer⟩
      rw [List.map_cons, List.append_cons] at distinct ⊢
      have fresh : newcomer.endpoint ∉ newcomers.map Newcomer.endpoint := by
        rw [List.map_append, List.map_append] at distinct
        have disjoint := (List.nodup_append.mp (List.nodup_append.mp distinct).1).2.2
        intro taken
        exact disjoint _ taken newcomer.endpoint (by simp) rfl
      exact inductionHypothesis (even.join now fresh) distinct

/-- The levels of every registered node after attempts of distinct endpoints: the
share is the same for all, is accepted by each, and the shares do not exceed the
ceiling together. The next attempt commits if and only if everyone accepts the
next share, and registers the joiner then; if it does not commit then nothing has
changed for anyone registered. -/
theorem joins_share_evenly (ceiling : UInt64) (users : List User)
    (attempts : List (Int64 × Newcomer)) (now : Int64) (newcomer : Newcomer)
    (distinct : ((attempts.map Prod.snd ++ [newcomer]).map Newcomer.endpoint).Nodup) :
    let cloud := joinAll (Controller.start ceiling users ⟨[]⟩) attempts
    let count := cloud.registry.records.length
    (∀ record ∈ cloud.registry.records, ∃ joined ∈ attempts.map Prod.snd,
      joined.endpoint = record.endpoint ∧ joined.minimum.toNat ≤ ceiling.toNat / count ∧
      ∃ levels, cloud.levels? record.endpoint = some levels ∧
        levels.committed.toNat = ceiling.toNat / count ∧
        levels.proposed = levels.committed ∧ levels.minimum = joined.minimum) ∧
    (cloud.registry.records.map fun record =>
      (cloud.levelsOf record.endpoint).committed.toNat).sum ≤ ceiling.toNat ∧
    ((∃ share, (cloud.join now newcomer).1 = .committed share) ↔
      newcomer.minimum.toNat ≤ ceiling.toNat / (count + 1) ∧
      ∀ record ∈ cloud.registry.records,
        (cloud.levelsOf record.endpoint).minimum.toNat ≤ ceiling.toNat / (count + 1)) ∧
    (∀ share, (cloud.join now newcomer).1 = .committed share →
      share.toNat = ceiling.toNat / (count + 1) ∧
      (cloud.join now newcomer).2.registry.records.map NodeRecord.endpoint =
        cloud.registry.records.map NodeRecord.endpoint ++ [newcomer.endpoint]) ∧
    ∀ share, (cloud.join now newcomer).1 = .rolledBack share →
      (cloud.join now newcomer).2.registry = cloud.registry ∧
      (∀ record ∈ cloud.registry.records,
        (cloud.join now newcomer).2.levels? record.endpoint = cloud.levels? record.endpoint) ∧
      (cloud.join now newcomer).2.levels? newcomer.endpoint = some ⟨0, 0, newcomer.minimum⟩ := by
  intro cloud count
  rw [List.map_append] at distinct
  have parts := List.nodup_append.mp distinct
  have even : cloud.Even ceiling (attempts.map Prod.snd) :=
    (Even.start ceiling users).joinAll attempts parts.1
  have fresh : newcomer.endpoint ∉ (attempts.map Prod.snd).map Newcomer.endpoint := by
    intro taken
    exact parts.2.2 _ taken newcomer.endpoint (by simp) rfl
  refine ⟨?_, even.sum_committed_le, ?_, ?_, ?_⟩
  · intro record member
    rcases even.holds record member with ⟨joined, isAttempt, same, accepts, found⟩
    rw [UInt64.le_iff_toNat_le, toNat_shareOf] at accepts
    exact ⟨joined, isAttempt, same, accepts, _, found, toNat_shareOf ceiling count, rfl, rfl⟩
  · exact (even.committed_iff now fresh).trans (even.welcome_iff newcomer)
  · intro share committed
    exact even.registered_of_committed fresh committed
  · intro share rolledBack
    exact even.unchanged_of_rolledBack fresh rolledBack

/-- Two nodes share a ceiling, and a third one accepts no less than more than a
third of it. -/
theorem joins_share_evenly_refused :
    ((joinAll (Controller.start 300 [] ⟨[]⟩)
      [(0, ⟨.v4 .loopback, 7001, .all, 100, 16⟩),
        (0, ⟨.v4 .loopback, 7002, .all, 120, 16⟩)]).join 0
          ⟨.v4 .loopback, 7003, .all, 160, 16⟩).2.levels? (.v4 .loopback 7003) =
      some ⟨0, 0, 160⟩ := by
  have spec := joins_share_evenly 300 []
    [(0, ⟨.v4 .loopback, 7001, .all, 100, 16⟩), (0, ⟨.v4 .loopback, 7002, .all, 120, 16⟩)] 0
    ⟨.v4 .loopback, 7003, .all, 160, 16⟩ (by decide)
  exact (spec.2.2.2.2 0 (by decide +kernel)).2.2

end Cloud

end ArithmeticCloud
