import ArithmeticCloud.Fleet.RegistryRequest
import Mathlib.Algebra.GroupWithZero.Nat
import Mathlib.Data.List.Induction
import Mathlib.Data.List.Nodup

/-!
Contract: the registry in terms of the requests that it has handled.

Owns:
- what a request makes of the records, as one revision of each record and at most
  one new record;
- a record in terms of the requests so far: the operators and the place are those of
  the first sign of life, the time is that of the latest, usage is counted since the
  first and departures since the latest;
- that every record is so, that an endpoint has at most one record, and that
  requests about other endpoints do not matter to it.

Does not own: which requests are made. The time since a node was last seen has to
fit into a signed word whenever a sweep measures it.
-/

namespace ArithmeticCloud.Fleet

open Network

/-! ## What a request says -/

namespace RegistryRequest

/-- The record that a sign of life from a new endpoint starts. -/
def starts? : RegistryRequest → Option NodeRecord
  | .upsert address port operators now => some ⟨address, port, operators, 0, true, now⟩
  | _ => none

/-- The endpoint that a sign of life comes from. -/
def noticed? (request : RegistryRequest) : Option Endpoint :=
  request.starts?.map NodeRecord.endpoint

/-- What a request makes of a record. -/
def revise (request : RegistryRequest) (record : NodeRecord) : NodeRecord :=
  match request with
  | .upsert address port _ now =>
      if record.endpoint = .ofAddress address port then
        { record with lastSeen := now, online := true }
      else
        record
  | .markOffline node =>
      if record.endpoint = node then { record with online := false } else record
  | .addUsage node amount =>
      if record.endpoint = node then
        { record with usage := saturatingSum record.usage amount }
      else
        record
  | .sweep now timeout =>
      if record.isExpired now timeout then { record with online := false } else record
  | .pick _ | .snapshot _ | .availableOperators | .records => record

/-- The usage that a request adds to a node. -/
def usageFor (endpoint : Endpoint) : RegistryRequest → Nat
  | .addUsage node amount => if node = endpoint then amount.toNat else 0
  | _ => 0

/-- Whether a request takes a node offline that was last seen at a time: by name, or
because it has been silent for longer than the timeout. -/
def Retires (endpoint : Endpoint) (seen : Int64) : RegistryRequest → Prop
  | .markOffline node => node = endpoint
  | .sweep now timeout => timeout.toInt < now.toInt - seen.toInt
  | _ => False

/-- Whether a request can matter to the record of an endpoint. -/
def concerns (endpoint : Endpoint) : RegistryRequest → Bool
  | .upsert address port _ _ => .ofAddress address port == endpoint
  | .markOffline node => node == endpoint
  | .addUsage node _ => node == endpoint
  | .sweep .. => true
  | .pick _ | .snapshot _ | .availableOperators | .records => false

section Revision

variable (request : RegistryRequest) (record : NodeRecord)

@[simp] theorem address_revise : (request.revise record).address = record.address := by
  cases request <;> simp only [revise] <;> split <;> rfl

@[simp] theorem port_revise : (request.revise record).port = record.port := by
  cases request <;> simp only [revise] <;> split <;> rfl

@[simp] theorem operators_revise : (request.revise record).operators = record.operators := by
  cases request <;> simp only [revise] <;> split <;> rfl

@[simp] theorem endpoint_revise : (request.revise record).endpoint = record.endpoint := by
  simp only [NodeRecord.endpoint, address_revise, port_revise]

theorem revise_of_not_concerns (other : request.concerns record.endpoint = false) :
    request.revise record = record := by
  cases request with
  | upsert address port operators now =>
      have different : Endpoint.ofAddress address port ≠ record.endpoint := by
        simpa [concerns] using other
      exact if_neg (Ne.symm different)
  | markOffline node =>
      have different : node ≠ record.endpoint := by
        simpa [concerns] using other
      exact if_neg (Ne.symm different)
  | addUsage node amount =>
      have different : node ≠ record.endpoint := by
        simpa [concerns] using other
      exact if_neg (Ne.symm different)
  | sweep now timeout => cases other
  | pick _ | snapshot _ | availableOperators | records => rfl

theorem concerns_of_starts? {record : NodeRecord} (starts : request.starts? = some record) :
    request.concerns record.endpoint = true := by
  cases request with
  | upsert address port operators now =>
      obtain rfl := Option.some.inj starts
      exact beq_self_eq_true _
  | _ => cases starts

variable {request record}

theorem eq_upsert_of_noticed? (noticed : request.noticed? = some record.endpoint) :
    ∃ operators now, request = .upsert record.address record.port operators now := by
  cases request with
  | upsert address port operators now =>
      obtain ⟨rfl, rfl⟩ := Endpoint.ofAddress_injective (Option.some.inj noticed)
      exact ⟨operators, now, rfl⟩
  | _ => cases noticed

end Revision

end RegistryRequest

namespace Registry

/-! ## What a request does to the records -/

section Handling

variable (registry : Registry)

theorem find?_eq_none_iff (endpoint : Endpoint) :
    registry.find? endpoint = none ↔ endpoint ∉ registry.records.map NodeRecord.endpoint := by
  simp [find?, List.find?_eq_none]

theorem records_upsert_eq (address : Address) (port : UInt16) (operators : OperatorSet)
    (now : Int64) :
    (registry.upsert address port operators now).records =
      registry.records.map (RegistryRequest.upsert address port operators now).revise ++
        if registry.find? (.ofAddress address port) = none then
          [⟨address, port, operators, 0, true, now⟩]
        else
          [] := by
  show (if (registry.find? (.ofAddress address port)).isSome then _ else _ : Registry).records = _
  cases found : registry.find? (.ofAddress address port) with
  | some record =>
      rw [if_pos Option.isSome_some, if_neg (Option.some_ne_none record), List.append_nil]
      rfl
  | none =>
      have unknown := (registry.find?_eq_none_iff _).mp found
      have others : registry.records.map
          (RegistryRequest.upsert address port operators now).revise = registry.records := by
        rw [List.map_congr_left, List.map_id]
        intro record member
        apply RegistryRequest.revise_of_not_concerns
        show (_ == _) = false
        rw [beq_eq_false_iff_ne]
        intro same
        exact unknown (same ▸ List.mem_map_of_mem member)
      rw [if_neg (by rw [Option.isSome_none]; decide), if_pos rfl, others]

/-- All that a request can do: every record is revised, and a sign of life from an
endpoint without a record brings one. -/
theorem records_handle (request : RegistryRequest) :
    (registry.handle request).2.records = registry.records.map request.revise ++
      request.starts?.toList.filter fun record =>
        registry.find? record.endpoint = none := by
  cases request with
  | upsert address port operators now =>
      refine (registry.records_upsert_eq address port operators now).trans ?_
      congr 1
      show _ = List.filter _ [_]
      rw [List.filter_cons]
      simp only [decide_eq_true_eq, List.filter_nil]
      rfl
  | markOffline _ | addUsage _ _ | sweep _ _ => exact (List.append_nil _).symm
  -- Questions revise nothing.
  | pick _ | snapshot _ | availableOperators | records =>
      exact (List.map_id _).symm.trans (List.append_nil _).symm

theorem endpoints_handle (request : RegistryRequest) :
    (registry.handle request).2.records.map NodeRecord.endpoint =
      registry.records.map NodeRecord.endpoint ++
        request.noticed?.toList.filter fun endpoint =>
          endpoint ∉ registry.records.map NodeRecord.endpoint := by
  have revised : NodeRecord.endpoint ∘ request.revise = NodeRecord.endpoint := by
    funext record
    exact request.endpoint_revise record
  rw [records_handle, List.map_append, List.map_map, revised]
  congr 1
  unfold RegistryRequest.noticed?
  cases request.starts? with
  | none => rfl
  | some record =>
      simp only [Option.toList_some, Option.map_some, List.filter_cons, List.filter_nil,
        find?_eq_none_iff]
      split <;> rfl

/-- An endpoint keeps to one record. -/
theorem nodup_endpoints_handle (distinct : (registry.records.map NodeRecord.endpoint).Nodup)
    (request : RegistryRequest) :
    ((registry.handle request).2.records.map NodeRecord.endpoint).Nodup := by
  rw [endpoints_handle, List.nodup_append]
  refine ⟨distinct, ?_, ?_⟩
  · have alone : request.noticed?.toList.Nodup := by
      cases request.noticed? <;> simp
    exact alone.sublist List.filter_sublist
  · intro known member endpoint isNew same
    have unknown := (List.mem_filter.mp isNew).2
    rw [decide_eq_true_eq] at unknown
    exact unknown (same ▸ member)

/-- The record of an endpoint is revised, or started, or there is still none. -/
theorem find?_handle (request : RegistryRequest) (endpoint : Endpoint) :
    (registry.handle request).2.find? endpoint =
      ((registry.find? endpoint).map request.revise).or
        (request.starts?.filter fun record => record.endpoint = endpoint) := by
  have revised : (fun record : NodeRecord => record.endpoint == endpoint) ∘ request.revise =
      fun record => record.endpoint == endpoint := by
    funext record
    exact congrArg (· == endpoint) (request.endpoint_revise record)
  unfold find?
  rw [records_handle, List.find?_append, List.find?_map, revised]
  cases found : registry.records.find? fun record => record.endpoint == endpoint with
  | some record => rfl
  | none =>
      rw [Option.map_none, Option.none_or, Option.none_or]
      cases request.starts? with
      | none => rfl
      | some record =>
          by_cases same : record.endpoint = endpoint
          · have isNew : registry.find? endpoint = none := found
            simp [Option.filter_some, same, isNew]
          · simp [Option.filter_some, same]

end Handling

/-! ## What some requests do to the records -/

/-- Endpoints that have a record keep their places. Every other endpoint that gave a sign
of life comes after them, in the order of the first signs. -/
theorem endpoints_foldl_handle (registry : Registry) (requests : List RegistryRequest) :
    (requests.foldl (fun registry request => (registry.handle request).2) registry).records.map
        NodeRecord.endpoint =
      registry.records.map NodeRecord.endpoint ++
        ((requests.filterMap RegistryRequest.noticed?).filter fun endpoint =>
          endpoint ∉ registry.records.map NodeRecord.endpoint).eraseDups := by
  induction requests using List.reverseRecOn with
  | nil => exact (List.append_nil _).symm
  | append_singleton earlier request inductionHypothesis =>
      rw [List.foldl_append, List.foldl_cons, List.foldl_nil, endpoints_handle,
        inductionHypothesis, List.filterMap_append, List.filter_append, List.eraseDups_append,
        List.append_assoc]
      congr 2
      generalize registry.records.map NodeRecord.endpoint = known
      generalize earlier.filterMap RegistryRequest.noticed? = signs
      cases noticed : request.noticed? with
      | none => simp [noticed]
      | some endpoint =>
          by_cases old : endpoint ∈ known
          · simp [noticed, old]
          · by_cases seen : endpoint ∈ signs
            · simp [noticed, old, seen, List.removeAll]
            · simp [noticed, old, seen, List.removeAll, List.eraseDups_cons]

/-- The registry after requests to the empty one, in order. -/
def after (requests : List RegistryRequest) : Registry :=
  requests.foldl (fun registry request => (registry.handle request).2) .empty

theorem after_append_singleton (requests : List RegistryRequest) (request : RegistryRequest) :
    after (requests ++ [request]) = ((after requests).handle request).2 :=
  List.foldl_append.trans rfl

/-- Every endpoint that gave a sign of life has one record, in the order of the first
signs. -/
theorem endpoints_after (requests : List RegistryRequest) :
    (after requests).records.map NodeRecord.endpoint =
      (requests.filterMap RegistryRequest.noticed?).eraseDups := by
  refine (endpoints_foldl_handle .empty requests).trans ?_
  simp [empty]

theorem nodup_endpoints_after (requests : List RegistryRequest) :
    ((after requests).records.map NodeRecord.endpoint).Nodup := by
  induction requests using List.reverseRecOn with
  | nil => exact List.nodup_nil
  | append_singleton earlier request inductionHypothesis =>
      rw [after_append_singleton]
      exact nodup_endpoints_handle _ inductionHypothesis request

/-- A record is the one found at its endpoint. -/
theorem find?_eq_some_iff {registry : Registry}
    (distinct : (registry.records.map NodeRecord.endpoint).Nodup) (endpoint : Endpoint)
    (record : NodeRecord) :
    registry.find? endpoint = some record ↔
      record ∈ registry.records ∧ record.endpoint = endpoint := by
  constructor
  · intro found
    have same := List.find?_some found
    exact ⟨List.mem_of_find?_eq_some found, by simpa using same⟩
  · rintro ⟨member, rfl⟩
    cases found : registry.find? record.endpoint with
    | none =>
        have unknown := (registry.find?_eq_none_iff _).mp found
        exact absurd (List.mem_map_of_mem member) unknown
    | some other =>
        have same : other.endpoint = record.endpoint := by
          simpa using List.find?_some found
        rw [List.inj_on_of_nodup_map distinct (List.mem_of_find?_eq_some found) member same]

/-- Requests about other endpoints do not matter. -/
theorem find?_after_filter (requests : List RegistryRequest) (endpoint : Endpoint) :
    (after (requests.filter (·.concerns endpoint))).find? endpoint =
      (after requests).find? endpoint := by
  induction requests using List.reverseRecOn with
  | nil => rfl
  | append_singleton earlier request inductionHypothesis =>
      rw [List.filter_append, after_append_singleton, find?_handle]
      by_cases concerned : request.concerns endpoint = true
      · rw [List.filter_cons_of_pos concerned, List.filter_nil, after_append_singleton,
          find?_handle, inductionHypothesis]
      · rw [List.filter_cons_of_neg concerned, List.filter_nil, List.append_nil,
          inductionHypothesis]
        have untouched (record : NodeRecord)
            (found : (after earlier).find? endpoint = some record) :
            request.revise record = record := by
          apply request.revise_of_not_concerns
          have same : record.endpoint = endpoint := by
            simpa using List.find?_some found
          rw [same]
          exact Bool.eq_false_iff.mpr concerned
        have unstarted : (request.starts?.filter fun record => record.endpoint = endpoint) =
            none := by
          rw [Option.filter_eq_none_iff]
          intro record starts
          have named := request.concerns_of_starts? starts
          rw [decide_eq_true_eq]
          rintro rfl
          exact concerned named
        rw [unstarted, Option.or_none]
        cases found : (after earlier).find? endpoint with
        | none => rfl
        | some record => rw [Option.map_some, untouched record found]

/-! ## Sweeps that can measure -/

/-- The time for which each node that is online has been silent fits into a signed
word. -/
def Measures (registry : Registry) (now : Int64) : Prop :=
  ∀ record ∈ registry.records, record.online = true →
    Int64.minValue.toInt ≤ now.toInt - record.lastSeen.toInt ∧
      now.toInt - record.lastSeen.toInt ≤ Int64.maxValue.toInt

instance (registry : Registry) (now : Int64) : Decidable (registry.Measures now) :=
  inferInstanceAs (Decidable (∀ record ∈ registry.records, _))

/-- Whether a registry can handle a request without the silence of a node leaving the
range of a signed word. -/
def CanHandle (registry : Registry) : RegistryRequest → Prop
  | .sweep now _ => registry.Measures now
  | _ => True

instance (registry : Registry) (request : RegistryRequest) :
    Decidable (registry.CanHandle request) := by
  cases request <;> unfold CanHandle <;> infer_instance

/-- No sweep among the requests leaves that range. -/
def CanHandleAll : Registry → List RegistryRequest → Prop
  | _, [] => True
  | registry, request :: others =>
      registry.CanHandle request ∧ (registry.handle request).2.CanHandleAll others

instance decidableCanHandleAll :
    (registry : Registry) → (requests : List RegistryRequest) →
      Decidable (registry.CanHandleAll requests)
  | _, [] => .isTrue trivial
  | registry, request :: others =>
      @instDecidableAnd _ _ inferInstance
        (decidableCanHandleAll (registry.handle request).2 others)

theorem canHandleAll_append_singleton (registry : Registry) (earlier : List RegistryRequest)
    (request : RegistryRequest) :
    registry.CanHandleAll (earlier ++ [request]) ↔
      registry.CanHandleAll earlier ∧
        (earlier.foldl (fun registry request => (registry.handle request).2) registry).CanHandle
          request := by
  induction earlier generalizing registry with
  | nil => simp [CanHandleAll]
  | cons first others inductionHypothesis =>
      rw [List.cons_append, CanHandleAll, CanHandleAll, inductionHypothesis, and_assoc,
        List.foldl_cons]

theorem isExpired_eq {registry : Registry} {now : Int64} (measures : registry.Measures now)
    {record : NodeRecord} (member : record ∈ registry.records) (timeout : Int64) :
    record.isExpired now timeout =
      (record.online && decide (timeout.toInt < now.toInt - record.lastSeen.toInt)) := by
  unfold NodeRecord.isExpired
  cases online : record.online with
  | false => rfl
  | true =>
      rcases measures record member online with ⟨least, greatest⟩
      have exact : (now - record.lastSeen).toInt = now.toInt - record.lastSeen.toInt := by
        rw [Int64.toInt_sub]
        have low : Int64.minValue.toInt = -2 ^ 63 := by decide
        have high : Int64.maxValue.toInt = 2 ^ 63 - 1 := by decide
        apply Int.bmod_eq_of_le <;> omega
      simp only [Bool.true_and, Int64.lt_iff_toInt_lt, exact]

end Registry

/-! ## Records in terms of the requests -/

/-- A record is what these requests make it. -/
structure Recorded (requests : List RegistryRequest) (record : NodeRecord) : Prop where
  /-- The first sign of life names the operators; usage counts from there on. -/
  first : ∃ before now later,
    requests = before ++ .upsert record.address record.port record.operators now :: later ∧
    record.endpoint ∉ before.filterMap RegistryRequest.noticed? ∧
    record.usage.toNat =
      min (2 ^ 64 - 1) (later.map (RegistryRequest.usageFor record.endpoint)).sum
  /-- The latest sign of life gives the time; departures count from there on. -/
  latest : ∃ before operators later,
    requests = before ++ .upsert record.address record.port operators record.lastSeen :: later ∧
    record.endpoint ∉ later.filterMap RegistryRequest.noticed? ∧
    (record.online = true ↔
      ∀ request ∈ later, ¬ request.Retires record.endpoint record.lastSeen)

section Revised

variable {registry : Registry} {request : RegistryRequest} {record : NodeRecord}

theorem toNat_usage_revise (request : RegistryRequest) (record : NodeRecord) :
    (request.revise record).usage.toNat =
      min (2 ^ 64 - 1) (record.usage.toNat + request.usageFor record.endpoint) := by
  have bounded : min (2 ^ 64 - 1) record.usage.toNat = record.usage.toNat := by
    have below := record.usage.toNat_lt
    omega
  have unchanged (same : (request.revise record).usage = record.usage)
      (nothing : request.usageFor record.endpoint = 0) :
      (request.revise record).usage.toNat =
        min (2 ^ 64 - 1) (record.usage.toNat + request.usageFor record.endpoint) := by
    rw [same, nothing, Nat.add_zero, bounded]
  cases request with
  | addUsage node amount =>
      simp only [RegistryRequest.revise, RegistryRequest.usageFor, eq_comm (a := node)]
      by_cases same : record.endpoint = node
      · have size : UInt64.size = 2 ^ 64 := rfl
        rw [if_pos same, if_pos same, toNat_saturatingSum, size, Nat.min_comm]
      · rw [if_neg same, if_neg same, Nat.add_zero, bounded]
  | upsert _ _ _ _ | markOffline _ | sweep _ _ =>
      apply unchanged _ rfl
      simp only [RegistryRequest.revise]
      split <;> rfl
  | pick _ | snapshot _ | availableOperators | records => exact unchanged rfl rfl

/-- A request that is no sign of life from a node leaves its time. -/
theorem lastSeen_revise (silent : request.noticed? ≠ some record.endpoint) :
    (request.revise record).lastSeen = record.lastSeen := by
  cases request with
  | upsert address port operators now =>
      have different : record.endpoint ≠ .ofAddress address port := by
        rintro same
        exact silent (congrArg some same.symm)
      simp only [RegistryRequest.revise, if_neg different]
  | markOffline _ | addUsage _ _ | sweep _ _ =>
      simp only [RegistryRequest.revise]
      split <;> rfl
  | pick _ | snapshot _ | availableOperators | records => rfl

/-- A request that is no sign of life from a node can only take it offline. -/
theorem online_revise (member : record ∈ registry.records)
    (canHandle : registry.CanHandle request)
    (silent : request.noticed? ≠ some record.endpoint) :
    (request.revise record).online = true ↔
      record.online = true ∧ ¬ request.Retires record.endpoint record.lastSeen := by
  cases request with
  | upsert address port operators now =>
      have different : record.endpoint ≠ .ofAddress address port := by
        rintro same
        exact silent (congrArg some same.symm)
      simp only [RegistryRequest.revise, RegistryRequest.Retires, if_neg different,
        not_false_eq_true, and_true]
  | markOffline node =>
      simp only [RegistryRequest.revise, RegistryRequest.Retires]
      by_cases same : record.endpoint = node
      · simp [same]
      · simp [same, Ne.symm same]
  | addUsage node amount =>
      simp only [RegistryRequest.revise, RegistryRequest.Retires, not_false_eq_true, and_true]
      split <;> rfl
  | sweep now timeout =>
      have expired := Registry.isExpired_eq canHandle member timeout
      simp only [RegistryRequest.revise, RegistryRequest.Retires, expired]
      cases online : record.online with
      | false => simp [online]
      | true =>
          by_cases tooLong : timeout.toInt < now.toInt - record.lastSeen.toInt
          · simp [tooLong]
          · simp [tooLong, online]
  | pick _ | snapshot _ | availableOperators | records =>
      simp [RegistryRequest.revise, RegistryRequest.Retires]

end Revised

namespace Recorded

theorem starts {requests : List RegistryRequest} {request : RegistryRequest} {record : NodeRecord}
    (starts : request.starts? = some record)
    (unnoticed : record.endpoint ∉ requests.filterMap RegistryRequest.noticed?) :
    Recorded (requests ++ [request]) record := by
  cases request with
  | upsert address port operators now =>
      obtain rfl := Option.some.inj starts
      exact ⟨⟨requests, now, [], rfl, unnoticed, rfl⟩,
        ⟨requests, operators, [], rfl, by simp, by simp⟩⟩
  | _ => cases starts

theorem revise {registry : Registry} {requests : List RegistryRequest} {record : NodeRecord}
    (recorded : Recorded requests record) (member : record ∈ registry.records)
    {request : RegistryRequest} (canHandle : registry.CanHandle request) :
    Recorded (requests ++ [request]) (request.revise record) := by
  constructor
  · rcases recorded.first with ⟨before, now, later, rfl, unnoticed, usage⟩
    refine ⟨before, now, later ++ [request], ?_, ?_, ?_⟩
    · simp only [RegistryRequest.address_revise, RegistryRequest.port_revise,
        RegistryRequest.operators_revise, List.append_assoc, List.cons_append]
    · rwa [RegistryRequest.endpoint_revise]
    · rw [toNat_usage_revise, usage, RegistryRequest.endpoint_revise, List.map_append,
        List.sum_append, List.map_singleton, List.sum_singleton]
      omega
  · by_cases noticed : request.noticed? = some record.endpoint
    · obtain ⟨operators, now, rfl⟩ := RegistryRequest.eq_upsert_of_noticed? noticed
      have revised : (RegistryRequest.upsert record.address record.port operators now).revise
          record = { record with lastSeen := now, online := true } := if_pos rfl
      rw [revised]
      exact ⟨requests, operators, [], rfl, by simp, by simp⟩
    · rcases recorded.latest with ⟨before, operators, later, rfl, unnoticed, online⟩
      refine ⟨before, operators, later ++ [request], ?_, ?_, ?_⟩
      · simp only [RegistryRequest.address_revise, RegistryRequest.port_revise,
          lastSeen_revise noticed, List.append_assoc, List.cons_append]
      · rw [RegistryRequest.endpoint_revise, List.filterMap_append, List.mem_append, not_or]
        refine ⟨unnoticed, ?_⟩
        simpa [List.mem_filterMap] using noticed
      · rw [online_revise member canHandle noticed, online, RegistryRequest.endpoint_revise,
          lastSeen_revise noticed, List.forall_mem_append, List.forall_mem_singleton]

end Recorded

/-- Every record is what the requests make it. -/
theorem recorded_after {requests : List RegistryRequest}
    (canHandle : Registry.empty.CanHandleAll requests) :
    ∀ record ∈ (Registry.after requests).records, Recorded requests record := by
  induction requests using List.reverseRecOn with
  | nil => exact List.forall_mem_nil _
  | append_singleton earlier request inductionHypothesis =>
      rw [Registry.canHandleAll_append_singleton] at canHandle
      intro record member
      rw [Registry.after_append_singleton, Registry.records_handle, List.mem_append] at member
      rcases member with revised | new
      · obtain ⟨old, known, rfl⟩ := List.mem_map.mp revised
        exact (inductionHypothesis canHandle.1 old known).revise known canHandle.2
      · obtain ⟨starts, unknown⟩ := List.mem_filter.mp new
        refine Recorded.starts (Option.mem_toList.mp starts) ?_
        rw [← List.mem_eraseDups, ← Registry.endpoints_after, ← Registry.find?_eq_none_iff]
        exact of_decide_eq_true unknown

/-- A sweep counts the records that it takes offline. -/
theorem swept_eq (registry : Registry) (now timeout : Int64) :
    (registry.handle (.sweep now timeout)).1 = .swept
      ((registry.records.zip (registry.handle (.sweep now timeout)).2.records).countP
        fun pair => pair.1.online && !pair.2.online) := by
  have paired : registry.records.zip (registry.handle (.sweep now timeout)).2.records =
      registry.records.map fun record =>
        (record, (RegistryRequest.sweep now timeout).revise record) := by
    have zipped := List.zip_map' (f := id) (g := (RegistryRequest.sweep now timeout).revise)
      (l := registry.records)
    rwa [List.map_id] at zipped
  rw [paired, List.countP_map]
  show RegistryAnswer.swept _ = _
  congr 1
  apply List.countP_congr
  intro record _
  show record.isExpired now timeout = true ↔ (record.online &&
    !((RegistryRequest.sweep now timeout).revise record).online) = true
  unfold RegistryRequest.revise NodeRecord.isExpired
  cases online : record.online with
  | false => simp
  | true =>
      by_cases expired : timeout < now - record.lastSeen
      · simp [expired]
      · simp [expired, online]

/-- The records of a registry in terms of the requests that it has handled: one for
each endpoint that gave a sign of life, in the order of the first signs, whatever was
requested about others. -/
theorem records_follow_requests {requests : List RegistryRequest}
    (canHandle : Registry.empty.CanHandleAll requests) :
    ∃ records, ((Registry.after requests).handle .records).1 = .records records ∧
      records.map NodeRecord.endpoint =
        (requests.filterMap RegistryRequest.noticed?).eraseDups ∧
      (records.map NodeRecord.endpoint).Nodup ∧
      (∀ record ∈ records, Recorded requests record) ∧
      (∀ endpoint record, (Registry.after requests).find? endpoint = some record ↔
        record ∈ records ∧ record.endpoint = endpoint) ∧
      (∀ endpoint, (Registry.after (requests.filter (·.concerns endpoint))).find? endpoint =
        (Registry.after requests).find? endpoint) ∧
      ∀ (registry : Registry) (now timeout : Int64),
        (registry.handle (.sweep now timeout)).1 = .swept
          ((registry.records.zip (registry.handle (.sweep now timeout)).2.records).countP
            fun pair => pair.1.online && !pair.2.online) := by
  have distinct := Registry.nodup_endpoints_after requests
  refine ⟨(Registry.after requests).records, rfl, Registry.endpoints_after requests, distinct,
    recorded_after canHandle, ?_, ?_, ?_⟩
  · exact Registry.find?_eq_some_iff distinct
  · exact Registry.find?_after_filter requests
  · exact swept_eq

/-- A node that is taken offline and comes back, and one that falls silent. -/
def revival : List RegistryRequest :=
  let first : Endpoint := .v4 .loopback 7001
  let second : Endpoint := .v4 .loopback 7002
  [.addUsage first 40, .upsert (.v4 .loopback) 7001 .all 0,
    .upsert (.v4 .loopback) 7002 (.ofList [.add]) 5, .addUsage first 100, .markOffline first,
    .pick .add, .upsert (.v4 .loopback) 7001 .empty 10, .addUsage second (0 - 50),
    .addUsage second 50, .sweep 20 10, .snapshot 300]

theorem records_follow_requests_revival :
    Registry.empty.CanHandleAll revival ∧
    ∃ records, ((Registry.after revival).handle .records).1 = .records records ∧
      (∀ record ∈ records, Recorded revival record) ∧
      records.map (fun record => (record.port, record.usage, record.online, record.lastSeen)) =
        [(7001, 100, true, 10), (7002, 0 - 1, false, 5)] := by
  have canHandle : Registry.empty.CanHandleAll revival := by decide +kernel
  obtain ⟨records, answered, -, -, recorded, -⟩ := records_follow_requests canHandle
  refine ⟨canHandle, records, answered, recorded, ?_⟩
  have same : (Registry.after revival).records = records := RegistryAnswer.records.inj answered
  rw [← same]
  decide +kernel

end ArithmeticCloud.Fleet
