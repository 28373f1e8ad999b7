import ArithmeticCloud.Proofs.Arithmetic.OperatorSets
import ArithmeticCloud.Proofs.Fleet.Records
import ArithmeticCloud.Proofs.Fleet.Selection

/-!
Contract: the three views of the registry agree, after any requests.

Owns:
- the order in which endpoints were first seen, said of the requests alone, and that
  records keep to it;
- the picked node, the peers of a snapshot and the available operators, each in terms of
  the records that are online.

Does not own: when a record is online and how much it is used, which `Recorded` says.
-/

namespace ArithmeticCloud.Fleet

open Network

/-! ## The order of the first signs of life -/

/-- One endpoint gave a sign of life at a time when the other was still to give its
first. -/
def SeenBefore (requests : List RegistryRequest) (first second : Endpoint) : Prop :=
  ∃ earlier later, requests = earlier ++ later ∧
    first ∈ earlier.filterMap RegistryRequest.noticed? ∧
    second ∉ earlier.filterMap RegistryRequest.noticed? ∧
    second ∈ later.filterMap RegistryRequest.noticed?

namespace SeenBefore

variable {requests : List RegistryRequest} {first second : Endpoint}

theorem append (before : SeenBefore requests first second) (more : List RegistryRequest) :
    SeenBefore (requests ++ more) first second := by
  obtain ⟨earlier, later, rfl, seen, unseen, seenLater⟩ := before
  refine ⟨earlier, later ++ more, List.append_assoc _ _ _, seen, unseen, ?_⟩
  rw [List.filterMap_append]
  exact List.mem_append_left _ seenLater

/-- Of two beginnings of the requests one goes on from the other, so that neither
endpoint can be ahead in both. -/
theorem asymm (before : SeenBefore requests first second) :
    ¬ SeenBefore requests second first := by
  rintro ⟨reached, rest, again, secondSeen, firstUnseen, -⟩
  obtain ⟨earlier, later, rfl, firstSeen, secondUnseen, -⟩ := before
  have grows {fewer more : List RegistryRequest} (part : fewer <+: more) {endpoint : Endpoint}
      (seen : endpoint ∈ fewer.filterMap RegistryRequest.noticed?) :
      endpoint ∈ more.filterMap RegistryRequest.noticed? :=
    (part.sublist.filterMap _).subset seen
  have beginning : reached <+: earlier ++ later := by
    rw [again]
    exact List.prefix_append reached rest
  rcases List.prefix_or_prefix_of_prefix (List.prefix_append earlier later) beginning with
    part | part
  · exact firstUnseen (grows part firstSeen)
  · exact secondUnseen (grows part secondSeen)

end SeenBefore

namespace Registry

/-- Records stand in the order in which their endpoints were first seen. -/
theorem pairwise_seenBefore (requests : List RegistryRequest) :
    ((after requests).records.map NodeRecord.endpoint).Pairwise (SeenBefore requests) := by
  induction requests using List.reverseRecOn with
  | nil => exact List.Pairwise.nil
  | append_singleton earlier request inductionHypothesis =>
      rw [after_append_singleton, endpoints_handle, List.pairwise_append]
      refine ⟨inductionHypothesis.imp fun before => before.append [request], ?_, ?_⟩
      · -- One request brings one record at most.
        cases request.noticed? with
        | none => exact List.Pairwise.nil
        | some endpoint => exact (List.pairwise_singleton _ endpoint).filter _
      · intro known member new isNew
        obtain ⟨notices, unknown⟩ := List.mem_filter.mp isNew
        rw [decide_eq_true_eq, endpoints_after, List.mem_eraseDups] at unknown
        rw [endpoints_after, List.mem_eraseDups] at member
        refine ⟨earlier, [request], rfl, member, unknown, ?_⟩
        rw [Option.mem_toList] at notices
        simp [notices]

theorem mem_earlier_of_seenBefore {requests : List RegistryRequest}
    {earlier later : List NodeRecord} {record other : NodeRecord}
    (whole : (after requests).records = earlier ++ record :: later)
    (member : other ∈ (after requests).records)
    (before : SeenBefore requests other.endpoint record.endpoint) : other ∈ earlier := by
  have ordered := pairwise_seenBefore requests
  rw [List.pairwise_map, whole, List.pairwise_append, List.pairwise_cons] at ordered
  rw [whole, List.mem_append, List.mem_cons] at member
  rcases member with front | rfl | behind
  · exact front
  · exact absurd before before.asymm
  · exact absurd before (ordered.2.1.1 other behind).asymm

/-! ## Each view in terms of the records -/

/-- The record is online and has the operator. No other that is and has is used less, and
those that were seen earlier are used more. -/
structure Leads (requests : List RegistryRequest) (operator : Operator) (record : NodeRecord) :
    Prop where
  online : record.online = true
  supports : record.operators.contains operator = true
  least : ∀ other ∈ (after requests).records, other.online = true →
    other.operators.contains operator = true → record.usage ≤ other.usage
  first : ∀ other ∈ (after requests).records, other.online = true →
    other.operators.contains operator = true →
    SeenBefore requests other.endpoint record.endpoint → record.usage < other.usage

theorem serves_iff (record : NodeRecord) (operator : Operator) :
    record.serves operator = true ↔
      record.online = true ∧ record.operators.contains operator = true := by
  unfold NodeRecord.serves
  exact Bool.and_eq_true_iff

theorem leads_of_pick? {requests : List RegistryRequest} {operator : Operator} {node : Endpoint}
    (picked : (after requests).pick? operator = some node) :
    ∃ record, (after requests).find? node = some record ∧ Leads requests operator record := by
  obtain ⟨earlier, record, later, whole, named, serves, more, notLess⟩ :=
    (pick?_eq_some_iff _ _ _).mp picked
  have member : record ∈ (after requests).records := by
    rw [whole]
    exact List.mem_append_right earlier List.mem_cons_self
  obtain ⟨online, supports⟩ := (serves_iff record operator).mp serves
  refine ⟨record, (find?_eq_some_iff (nodup_endpoints_after requests) _ _).mpr ⟨member, named⟩,
    online, supports, ?_, ?_⟩
  · intro other known otherOnline otherSupports
    have able := (serves_iff other operator).mpr ⟨otherOnline, otherSupports⟩
    rw [whole, List.mem_append, List.mem_cons] at known
    rcases known with front | rfl | behind
    · exact UInt64.le_of_lt (more other front able)
    · exact UInt64.le_refl _
    · exact notLess other behind able
  · intro other known otherOnline otherSupports before
    apply more other (mem_earlier_of_seenBefore whole known before)
    exact (serves_iff other operator).mpr ⟨otherOnline, otherSupports⟩

theorem mem_onlineEndpoints_iff {registry : Registry}
    (distinct : (registry.records.map NodeRecord.endpoint).Nodup) (endpoint : Endpoint) :
    endpoint ∈ registry.onlineEndpoints ↔
      ∃ record, registry.find? endpoint = some record ∧ record.online = true := by
  simp only [onlineEndpoints, List.mem_map, List.mem_filter, find?_eq_some_iff distinct]
  constructor
  · rintro ⟨record, ⟨member, online⟩, named⟩
    exact ⟨record, ⟨member, named⟩, online⟩
  · rintro ⟨record, ⟨member, named⟩, online⟩
    exact ⟨record, ⟨member, online⟩, named⟩

/-- The peers of a snapshot are among the endpoints of all records, in their order. -/
theorem onlineEndpoints_sublist (registry : Registry) :
    registry.onlineEndpoints.Sublist (registry.records.map NodeRecord.endpoint) :=
  List.filter_sublist.map NodeRecord.endpoint

/-- Distinct operators are listed as they are. -/
theorem members_availableOperators (registry : Registry) :
    registry.availableOperators.members =
      Operator.all.filter fun operator => registry.records.any (·.serves operator) := by
  have distinct : Operator.all.Nodup := by decide
  unfold availableOperators OperatorSet.ofList
  rw [OperatorSet.foldl_insert_of_nodup (distinct.sublist List.filter_sublist)]
  rfl

theorem mem_availableOperators_iff (registry : Registry) (operator : Operator) :
    operator ∈ registry.availableOperators.members ↔
      ∃ record ∈ registry.records, record.serves operator = true := by
  rw [members_availableOperators, List.mem_filter, List.any_eq_true]
  exact and_iff_right operator.mem_all

theorem isSome_pick?_iff (registry : Registry) (operator : Operator) :
    (registry.pick? operator).isSome = true ↔
      ∃ record ∈ registry.records, record.serves operator = true := by
  rw [Option.isSome_iff_ne_none, Ne, pick?_eq_none_iff]
  simp

/-! ## All three views -/

/-- After any requests a node is picked for an operator exactly if the operator is
available. It is a peer of the snapshot, and its record leads the others. The peers are
the endpoints of the records that are online, each once, in the order in which they were
first seen; the available operators are those that some record serves, each once, in
their fixed order. -/
theorem views_agree (requests : List RegistryRequest) (operator : Operator) (ceiling : UInt64) :
    let registry := after requests
    let peers := (registry.snapshot ceiling).peers
    ((registry.pick? operator).isSome = true ↔
      registry.availableOperators.contains operator = true) ∧
    (∀ node, registry.pick? operator = some node →
      node ∈ peers ∧
        ∃ record, registry.find? node = some record ∧ Leads requests operator record) ∧
    peers.Nodup ∧ peers.Pairwise (SeenBefore requests) ∧
    (∀ endpoint, endpoint ∈ peers ↔
      ∃ record, registry.find? endpoint = some record ∧ record.online = true) ∧
    registry.availableOperators.members.Sublist [.add, .sub, .mul, .div] ∧
    ∀ available, available ∈ registry.availableOperators.members ↔
      ∃ record ∈ registry.records,
        record.online = true ∧ record.operators.contains available = true := by
  intro registry peers
  have distinct := nodup_endpoints_after requests
  have onlinePeers : ∀ endpoint, endpoint ∈ peers ↔
      ∃ record, registry.find? endpoint = some record ∧ record.online = true :=
    mem_onlineEndpoints_iff distinct
  refine ⟨?_, ?_, distinct.sublist registry.onlineEndpoints_sublist,
    (pairwise_seenBefore requests).sublist registry.onlineEndpoints_sublist, onlinePeers, ?_, ?_⟩
  · rw [isSome_pick?_iff, OperatorSet.contains, List.contains_iff_mem, mem_availableOperators_iff]
  · intro node picked
    obtain ⟨record, found, leads⟩ := leads_of_pick? picked
    exact ⟨(onlinePeers node).mpr ⟨record, found, leads.online⟩, record, found, leads⟩
  · rw [members_availableOperators]
    exact List.filter_sublist
  · intro available
    simp only [mem_availableOperators_iff, serves_iff]

/-- Of equally used nodes the one that was seen first is picked, and not one that is used
less but is offline. -/
example :
    let registry := after [.upsert (.v4 .loopback) 7001 .all 0,
      .upsert (.v4 .loopback) 7002 (.ofList [.mul]) 0, .upsert (.v4 .loopback) 7003 .all 0,
      .addUsage (.v4 .loopback 7001) 50, .addUsage (.v4 .loopback 7003) 50,
      .markOffline (.v4 .loopback 7002)]
    registry.pick? .mul = some (.v4 .loopback 7001) := by
  decide +kernel

end Registry

end ArithmeticCloud.Fleet
