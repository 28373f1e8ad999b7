import ArithmeticCloud.Proofs.Fleet.Records
import ArithmeticCloud.Proofs.Fleet.Selection

/-!
Contract: how far the usages of the nodes are apart.

Owns:
- the spread of a registry, which is its largest usage less its smallest;
- where all nodes serve an operator, that the picked node is the least used of all;
- requests that change neither which nodes there are, nor which are online, nor usages.

Does not own: how usages come about.
-/

namespace ArithmeticCloud.Fleet.Registry

/-! ## Spread -/

/-- The largest usage less the smallest. -/
def spread (registry : Registry) : Nat :=
  let usages := registry.records.map fun record => record.usage.toNat
  usages.max?.getD 0 - usages.min?.getD 0

theorem spread_le_iff {registry : Registry} {bound : Nat} :
    registry.spread ≤ bound ↔ ∀ record ∈ registry.records, ∀ other ∈ registry.records,
      record.usage.toNat ≤ other.usage.toNat + bound := by
  have usages : (∀ record ∈ registry.records, ∀ other ∈ registry.records,
      record.usage.toNat ≤ other.usage.toNat + bound) ↔
        ∀ large ∈ registry.records.map (fun record => record.usage.toNat),
          ∀ small ∈ registry.records.map (fun record => record.usage.toNat),
            large ≤ small + bound := by
    simp only [List.forall_mem_map]
  rw [usages]
  unfold spread
  dsimp only
  generalize registry.records.map (fun record => record.usage.toNat) = usages
  cases largest : usages.max? with
  | none =>
      obtain rfl := List.max?_eq_none_iff.mp largest
      simp
  | some large =>
      cases smallest : usages.min? with
      | none =>
          obtain rfl := List.min?_eq_none_iff.mp smallest
          cases largest
      | some small =>
          obtain ⟨largeMember, above⟩ := List.max?_eq_some_iff.mp largest
          obtain ⟨smallMember, below⟩ := List.min?_eq_some_iff.mp smallest
          simp only [Option.getD_some]
          constructor
          · intro within usage member other otherMember
            have atMost := above usage member
            have atLeast := below other otherMember
            omega
          · intro within
            have both := within large largeMember small smallMember
            omega

/-! ## The least used node -/

theorem usage_le_of_pick? {registry : Registry}
    (distinct : (registry.records.map NodeRecord.endpoint).Nodup) {operator : Operator}
    (able : ∀ record ∈ registry.records, record.serves operator = true)
    {record other : NodeRecord} (picked : registry.pick? operator = some record.endpoint)
    (member : record ∈ registry.records) (otherMember : other ∈ registry.records) :
    record.usage ≤ other.usage := by
  obtain ⟨earlier, best, later, whole, same, -, more, notLess⟩ :=
    (registry.pick?_eq_some_iff operator record.endpoint).mp picked
  have bestMember : best ∈ registry.records := by
    rw [whole]
    exact List.mem_append_right _ List.mem_cons_self
  obtain rfl := List.inj_on_of_nodup_map distinct bestMember member same
  have serves := able other otherMember
  rw [whole, List.mem_append, List.mem_cons] at otherMember
  rcases otherMember with front | rfl | back
  · exact UInt64.le_of_lt (more other front serves)
  · exact UInt64.le_refl _
  · exact notLess other back serves

/-! ## Requests that change nothing about usage -/

/-- The request brings no node, takes none offline and charges none. -/
def Undisturbed (registry : Registry) : RegistryRequest → Prop
  | .upsert address port _ _ => (registry.find? (.ofAddress address port)).isSome = true
  | .sweep now timeout => ∀ record ∈ registry.records, record.isExpired now timeout = false
  | .markOffline _ | .addUsage .. => False
  | .pick _ | .snapshot _ | .availableOperators | .records => True

instance (registry : Registry) :
    (request : RegistryRequest) → Decidable (registry.Undisturbed request)
  | .upsert _ _ _ _ => instDecidableEqBool _ true
  | .sweep now timeout =>
      List.decidableBAll (fun record : NodeRecord => record.isExpired now timeout = false)
        registry.records
  | .markOffline _ | .addUsage _ _ => .isFalse id
  | .pick _ | .snapshot _ | .availableOperators | .records => .isTrue trivial

section Undisturbed

variable {registry : Registry} {request : RegistryRequest}
  (undisturbed : registry.Undisturbed request)
include undisturbed

theorem records_handle_of_undisturbed :
    (registry.handle request).2.records = registry.records.map request.revise := by
  rw [records_handle]
  have noNode : (request.starts?.toList.filter fun record =>
      registry.find? record.endpoint = none) = [] := by
    cases request with
    | upsert address port operators now =>
        obtain ⟨record, found⟩ := Option.isSome_iff_exists.mp undisturbed
        show List.filter _ [_] = []
        rw [List.filter_cons_of_neg, List.filter_nil]
        show ¬ decide (registry.find? (.ofAddress address port) = none) = true
        simp [found]
    | _ => rfl
  rw [noNode, List.append_nil]

theorem revise_of_undisturbed {record : NodeRecord} (member : record ∈ registry.records) :
    (request.revise record).usage = record.usage ∧
      (record.online = true → (request.revise record).online = true) := by
  cases request with
  | upsert address port operators now =>
      unfold RegistryRequest.revise
      dsimp only
      split
      · exact ⟨rfl, fun _ => rfl⟩
      · exact ⟨rfl, id⟩
  | markOffline _ | addUsage _ _ => exact undisturbed.elim
  | sweep now timeout =>
      have silent := undisturbed record member
      unfold RegistryRequest.revise
      dsimp only
      rw [silent, if_neg Bool.false_ne_true]
      exact ⟨rfl, id⟩
  | pick _ | snapshot _ | availableOperators | records => exact ⟨rfl, id⟩

end Undisturbed

end ArithmeticCloud.Fleet.Registry
