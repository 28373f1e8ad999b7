import ArithmeticCloud.Proofs.Fleet.Spread
import ArithmeticCloud.Proofs.Service.Payments
import ArithmeticCloud.Proofs.Service.Traffic
import Mathlib.Data.Finset.Card
import Mathlib.Data.Finset.Range

/-!
Contract: charges that are still to come, and how uneven they can leave the nodes.

Owns:
- the node that a session holds, from the answer to its pick until it posts the charge;
- `Queued`: when the registry comes to a pick, the nodes held and the charges that
  are still in the mailbox leave room for one more;
- `pending`, the charges of one node that are held or in the mailbox;
- `Level`: no node is used more than another by more than a bound, with all its
  pending charges at their largest.

Does not own: which steps there are, and that a session pays for the node it holds.
-/

namespace ArithmeticCloud.Service

open Fleet Network

/-! ## What a session holds and wants -/

/-- The node that a session holds once a query is answered. -/
def Query.holds? : (query : Query) → query.Answer → Option Endpoint
  | .pick _, picked => picked
  | .compute node _ _ _, .ok (.value _) => some node
  | _, _ => none

/-- The operator for which a query asks for a node. -/
def Query.picks? : Query → Option Operator
  | .pick operator => some operator
  | _ => none

namespace Activity

/-- The node that was picked for a session and that it has not charged yet. -/
def held? : Activity → Option Endpoint
  | .due inquiry | .sent inquiry => inquiry.query.node?
  | .answered inquiry answer => inquiry.query.holds? answer
  | _ => none

/-- The operator for which a session waits for a node. -/
def wanted? : Activity → Option Operator
  | .sent inquiry => inquiry.query.picks?
  | _ => none

/-- Whether a session holds a node. -/
def holds (node : Endpoint) (activity : Activity) : Bool := activity.held? == some node

/-- Whether a session is in the middle of an evaluation. -/
def evaluates : Activity → Bool
  | .due inquiry | .sent inquiry | .answered inquiry _ => inquiry.query.evaluates
  | _ => false

theorem evaluates_of_held? {activity : Activity} (holds : activity.held?.isSome = true) :
    activity.evaluates = true := by
  cases activity with
  | idle session => cases holds
  | due inquiry => exact Query.evaluates_of_node? holds
  | sent inquiry => exact Query.evaluates_of_node? holds
  | answered inquiry answer =>
      rcases inquiry with ⟨session, line, query, next⟩
      cases query with
      | pick operator => rfl
      | compute node left operator right => rfl
      | _ => cases holds
  | ended => cases holds

theorem exists_pick_of_wanted? {activity : Activity} {operator : Operator}
    (wants : activity.wanted? = some operator) :
    ∃ session line next, activity = .sent ⟨session, line, .pick operator, next⟩ := by
  cases activity with
  | sent inquiry =>
      rcases inquiry with ⟨session, line, query, next⟩
      cases query with
      | pick other =>
          obtain rfl := Option.some.inj wants
          exact ⟨session, line, next, rfl⟩
      | _ => cases wants
  | _ => cases wants

theorem evaluates_of_wanted? {activity : Activity} (wants : activity.wanted?.isSome = true) :
    activity.evaluates = true := by
  obtain ⟨operator, wants⟩ := Option.isSome_iff_exists.mp wants
  obtain ⟨session, line, next, rfl⟩ := exists_pick_of_wanted? wants
  rfl

end Activity

/-! ## Positions of sessions -/

/-- The positions of the sessions for which something is so. -/
def positions (sessions : List Activity) (isSo : Nat → Activity → Bool) : Finset Nat :=
  (Finset.range sessions.length).filter fun position => sessions[position]?.any (isSo position)

section Positions

variable {sessions : List Activity} {isSo wasSo : Nat → Activity → Bool} {client position : Nat}
  {old new : Activity}

theorem mem_positions : position ∈ positions sessions isSo ↔
    ∃ activity, sessions[position]? = some activity ∧ isSo position activity = true := by
  rw [positions, Finset.mem_filter, Finset.mem_range, Option.any_eq_true]
  constructor
  · exact And.right
  · rintro ⟨activity, found, so⟩
    exact ⟨(List.getElem?_eq_some_iff.mp found).1, activity, found, so⟩

theorem positions_subset (implies : ∀ position activity,
    isSo position activity = true → wasSo position activity = true) :
    positions sessions isSo ⊆ positions sessions wasSo := by
  intro position member
  obtain ⟨activity, found, so⟩ := mem_positions.mp member
  exact mem_positions.mpr ⟨activity, found, implies position activity so⟩

section Set

variable (found : sessions[client]? = some old)
include found

theorem mem_positions_self : client ∈ positions sessions isSo ↔ isSo client old = true := by
  rw [mem_positions, found]
  simp

theorem mem_positions_set : position ∈ positions (sessions.set client new) isSo ↔
    if client = position then isSo client new = true else position ∈ positions sessions isSo := by
  obtain ⟨inside, -⟩ := List.getElem?_eq_some_iff.mp found
  split
  · next here =>
      subst position
      exact mem_positions_self (List.getElem?_set_self inside)
  · next elsewhere => rw [mem_positions, mem_positions, List.getElem?_set_ne elsewhere]

/-- What is so of the other sessions was so, and a session has changed. -/
theorem positions_set_subset_insert (implies : ∀ position activity, client ≠ position →
    isSo position activity = true → wasSo position activity = true) :
    positions (sessions.set client new) isSo ⊆ insert client (positions sessions wasSo) := by
  intro position member
  rw [mem_positions_set found] at member
  split at member
  · next here => exact here ▸ Finset.mem_insert_self _ _
  · next elsewhere =>
      obtain ⟨activity, stands, so⟩ := mem_positions.mp member
      exact Finset.mem_insert_of_mem
        (mem_positions.mpr ⟨activity, stands, implies position activity elsewhere so⟩)

theorem positions_set_subset (implies : ∀ position activity, client ≠ position →
    isSo position activity = true → wasSo position activity = true)
    (self : isSo client new = true → wasSo client old = true) :
    positions (sessions.set client new) isSo ⊆ positions sessions wasSo := by
  intro position member
  by_cases here : client = position
  · subst position
    rw [mem_positions_set found, if_pos rfl] at member
    exact (mem_positions_self found).mpr (self member)
  · exact Finset.mem_of_mem_insert_of_ne
      (positions_set_subset_insert found implies member) (Ne.symm here)

/-- A session of which it is no longer so counts less. -/
theorem card_positions_set_lt (implies : ∀ position activity, client ≠ position →
    isSo position activity = true → wasSo position activity = true)
    (self : isSo client new = false) (before : wasSo client old = true) :
    (positions (sessions.set client new) isSo).card < (positions sessions wasSo).card := by
  apply Finset.card_lt_card
  refine (Finset.ssubset_iff_of_subset ?_).mpr
    ⟨client, (mem_positions_self found).mpr before, ?_⟩
  · exact positions_set_subset found implies fun so => absurd so (Bool.eq_false_iff.mp self)
  · rw [mem_positions_set found, if_pos rfl]
    exact Bool.eq_false_iff.mp self

end Set

end Positions

/-! ## Room for a pick -/

/-- Whether the mail is a charge. -/
def RegistryMail.isCharge : RegistryMail → Bool
  | .addUsage .. => true
  | _ => false

/-- Whether a session holds a node, or is given one while this mail is handled. -/
def competes (before : List RegistryMail) (position : Nat) (activity : Activity) : Bool :=
  activity.held?.isSome || activity.wanted?.isSome && before.contains (.question position)

/-- Where a pick waits, the sessions in front of it and the charges behind it leave room
for one more. -/
def Queued (limit : Nat) (mail : List RegistryMail) (sessions : List Activity) : Prop :=
  ∀ before client later, mail = before ++ .question client :: later →
    client ∈ positions sessions (fun _ activity => activity.wanted?.isSome) →
    (positions sessions (competes before)).card + 1 + later.countP RegistryMail.isCharge ≤ limit

theorem evaluates_of_competes {before : List RegistryMail} {position : Nat} {activity : Activity}
    (competing : competes before position activity = true) : activity.evaluates = true := by
  rcases Bool.or_eq_true_iff.mp competing with holds | waits
  · exact Activity.evaluates_of_held? holds
  · exact Activity.evaluates_of_wanted? (Bool.and_eq_true_iff.mp waits).1

/-- A session that holds nothing and asks only later does not compete. -/
theorem competes_eq_false {before : List RegistryMail} {position : Nat} {activity : Activity}
    (free : activity.held? = none) (unasked : .question position ∉ before) :
    competes before position activity = false := by
  rw [competes, free, List.contains_eq_mem, decide_eq_false unasked]
  simp

theorem competes_cons {mail : RegistryMail} {before : List RegistryMail} {position : Nat}
    {activity : Activity} (competing : competes before position activity = true) :
    competes (mail :: before) position activity = true := by
  rcases Bool.or_eq_true_iff.mp competing with holds | waits
  · exact Bool.or_eq_true_iff.mpr (.inl holds)
  · obtain ⟨wants, asked⟩ := Bool.and_eq_true_iff.mp waits
    rw [List.contains_eq_mem, decide_eq_true_eq] at asked
    refine Bool.or_eq_true_iff.mpr (.inr (Bool.and_eq_true_iff.mpr ⟨wants, ?_⟩))
    rw [List.contains_eq_mem, decide_eq_true_eq]
    exact List.mem_cons_of_mem _ asked

/-- What stands behind a question in a mailbox ends with the latest mail, or the
question is the latest. -/
theorem split_append_singleton {mail before later : List RegistryMail}
    {latest question : RegistryMail} (split : mail ++ [latest] = before ++ question :: later) :
    (mail = before ∧ latest = question ∧ later = []) ∨
      ∃ others, later = others ++ [latest] ∧ mail = before ++ question :: others := by
  rcases List.eq_nil_or_concat' later with rfl | ⟨others, last, rfl⟩
  · obtain ⟨same, atEnd⟩ := List.append_inj' split rfl
    exact .inl ⟨same, List.singleton_inj.mp atEnd, rfl⟩
  · rw [← List.cons_append, ← List.append_assoc] at split
    obtain ⟨same, atEnd⟩ := List.append_inj' split rfl
    exact .inr ⟨others, by rw [List.singleton_inj.mp atEnd], same⟩

namespace Queued

variable {limit : Nat} {mail : List RegistryMail} {sessions : List Activity} {client : Nat}
  {old new : Activity}

theorem nil (limit : Nat) (sessions : List Activity) : Queued limit [] sessions := by
  intro before client later split
  exact absurd split (by simp)

theorem tail {first : RegistryMail} (queued : Queued limit (first :: mail) sessions) :
    Queued limit mail sessions := by
  intro before asker later split asks
  have room := queued (first :: before) asker later (by rw [split, List.cons_append]) asks
  have fewer : (positions sessions (competes before)).card ≤
      (positions sessions (competes (first :: before))).card :=
    Finset.card_le_card (positions_subset fun _ _ => competes_cons)
  omega

section Set

variable (found : sessions[client]? = some old) (unwanting : new.wanted? = none)
include found unwanting

/-- Those that ask are other sessions than one that has just changed. -/
theorem asks_before {asker : Nat} (asks : asker ∈ positions (sessions.set client new)
      (fun _ activity => activity.wanted?.isSome)) :
    client ≠ asker ∧ asker ∈ positions sessions (fun _ activity => activity.wanted?.isSome) := by
  rw [mem_positions_set found, unwanting] at asks
  split at asks
  · cases asks
  · next elsewhere => exact ⟨elsewhere, asks⟩

theorem set (queued : Queued limit mail sessions)
    (kept : new.held?.isSome = true → old.held?.isSome = true) :
    Queued limit mail (sessions.set client new) := by
  intro before asker later split asks
  have room := queued before asker later split (asks_before found unwanting asks).2
  have fewer : (positions (sessions.set client new) (competes before)).card ≤
      (positions sessions (competes before)).card := by
    apply Finset.card_le_card
    refine positions_set_subset found (fun _ _ _ => id) fun competing => ?_
    rw [competes, unwanting, Option.isSome_none, Bool.false_and, Bool.or_false] at competing
    exact Bool.or_eq_true_iff.mpr (.inl (kept competing))
  omega

/-- A session that charges its node competes no longer, and its charge is behind all
picks. -/
theorem charge (queued : Queued limit mail sessions) (holds : old.held?.isSome = true)
    (free : new.held? = none) (node : Endpoint) (amount : UInt64) :
    Queued limit (mail ++ [.addUsage node amount]) (sessions.set client new) := by
  intro before asker later split asks
  rcases split_append_singleton split with ⟨-, noQuestion, -⟩ | ⟨others, rfl, whole⟩
  · cases noQuestion
  · have room := queued before asker others whole (asks_before found unwanting asks).2
    have fewer : (positions (sessions.set client new) (competes before)).card <
        (positions sessions (competes before)).card := by
      refine card_positions_set_lt found (fun _ _ _ => id) ?_
        (Bool.or_eq_true_iff.mpr (.inl holds))
      rw [competes, free, unwanting]
      rfl
    rw [List.countP_append, List.countP_singleton, RegistryMail.isCharge, if_pos rfl]
    omega

/-- A session whose pick is handled has competed with all the picks behind. -/
theorem take (queued : Queued limit (.question client :: mail) sessions)
    (waited : old.wanted?.isSome = true) : Queued limit mail (sessions.set client new) := by
  intro before asker later split asks
  have room := queued (.question client :: before) asker later (by rw [split, List.cons_append])
    (asks_before found unwanting asks).2
  have fewer : (positions (sessions.set client new) (competes before)).card ≤
      (positions sessions (competes (.question client :: before))).card := by
    apply Finset.card_le_card
    refine positions_set_subset found (fun _ _ _ => competes_cons) fun _ => ?_
    rw [competes, waited, List.contains_eq_mem, decide_eq_true List.mem_cons_self]
    simp
  omega

end Set

/-- A question is posted behind all others. If it is a pick, every other evaluation
competes with it, and no charge is behind it. -/
theorem post (queued : Queued limit mail sessions) (found : sessions[client]? = some old)
    (free : new.held? = none) (unasked : .question client ∉ mail)
    (busy : new.wanted?.isSome = true → old.evaluates = true)
    (few : (positions sessions fun _ => Activity.evaluates).card ≤ limit) :
    Queued limit (mail ++ [.question client]) (sessions.set client new) := by
  intro before asker later split asks
  rcases split_append_singleton split with ⟨rfl, same, rfl⟩ | ⟨others, rfl, rfl⟩
  · -- The new pick is the last mail: it competes with other evaluations only.
    obtain rfl := RegistryMail.question.inj same
    rw [mem_positions_set found, if_pos rfl] at asks
    have fewer : (positions (sessions.set client new) (competes mail)).card <
        (positions sessions fun _ => Activity.evaluates).card :=
      card_positions_set_lt found (fun _ _ _ => evaluates_of_competes)
        (competes_eq_false free unasked) (busy asks)
    rw [List.countP_nil]
    omega
  · have notBefore : RegistryMail.question client ∉ before :=
      fun member => unasked (List.mem_append_left _ member)
    have elsewhere : client ≠ asker := by
      rintro rfl
      exact unasked (List.mem_append_right _ List.mem_cons_self)
    rw [mem_positions_set found, if_neg elsewhere] at asks
    have room := queued before asker others rfl asks
    have fewer : (positions (sessions.set client new) (competes before)).card ≤
        (positions sessions (competes before)).card := by
      apply Finset.card_le_card
      refine positions_set_subset found (fun _ _ _ => id) fun competing => ?_
      rw [competes_eq_false free notBefore] at competing
      cases competing
    have noCharge : (RegistryMail.question client).isCharge = false := rfl
    rw [List.countP_append, List.countP_singleton, noCharge, if_neg Bool.false_ne_true]
    omega

end Queued

/-! ## Charges under way -/

/-- Whether the mail is a charge to a node. -/
def RegistryMail.charges (node : Endpoint) : RegistryMail → Bool
  | .addUsage charged _ => charged == node
  | _ => false

/-- The charges that a node has still to expect. -/
def pending (mail : List RegistryMail) (sessions : List Activity) (node : Endpoint) : Nat :=
  (positions sessions fun _ => Activity.holds node).card +
    mail.countP (RegistryMail.charges node)

section Pending

variable {mail : List RegistryMail} {sessions : List Activity} {client : Nat}
  {old new : Activity}

theorem pending_le_competing (mail : List RegistryMail) (sessions : List Activity)
    (node : Endpoint) : pending mail sessions node ≤
      (positions sessions (competes [])).card + mail.countP RegistryMail.isCharge := by
  apply Nat.add_le_add
  · apply Finset.card_le_card
    refine positions_subset fun position activity holds => ?_
    rw [competes, beq_iff_eq.mp holds]
    rfl
  · refine List.countP_mono_left fun letter _ charges => ?_
    cases letter with
    | addUsage charged amount => rfl
    | question client => cases charges
    | markOffline node => cases charges

theorem pending_set_le (found : sessions[client]? = some old)
    (kept : ∀ node, new.held? = some node → old.held? = some node) (node : Endpoint) :
    pending mail (sessions.set client new) node ≤ pending mail sessions node := by
  apply Nat.add_le_add_right
  apply Finset.card_le_card
  refine positions_set_subset found (fun _ _ _ => id) fun holds => ?_
  exact beq_iff_eq.mpr (kept node (beq_iff_eq.mp holds))

/-- A session that changes expects at most one charge more. -/
theorem pending_set_le_add (found : sessions[client]? = some old) (node : Endpoint) :
    pending mail (sessions.set client new) node ≤
      pending mail sessions node + if new.held? = some node then 1 else 0 := by
  split
  · next holds =>
      have more : (positions (sessions.set client new) fun _ => Activity.holds node).card ≤
          (insert client (positions sessions fun _ => Activity.holds node)).card :=
        Finset.card_le_card (positions_set_subset_insert found fun _ _ _ => id)
      have atMost := Finset.card_insert_le client
        (positions sessions fun _ => Activity.holds node)
      unfold pending
      omega
  · next free =>
      have fewer : positions (sessions.set client new) (fun _ => Activity.holds node) ⊆
          positions sessions fun _ => Activity.holds node :=
        positions_set_subset found (fun _ _ _ => id) fun holds => absurd (beq_iff_eq.mp holds) free
      exact Nat.add_le_add_right (Finset.card_le_card fewer) _

theorem pending_question (mail : List RegistryMail) (sessions : List Activity) (client : Nat)
    (node : Endpoint) :
    pending (mail ++ [.question client]) sessions node = pending mail sessions node := by
  rw [pending, List.countP_append, List.countP_singleton,
    if_neg (by simp [RegistryMail.charges]), Nat.add_zero, pending]

theorem pending_cons_question (mail : List RegistryMail) (sessions : List Activity) (client : Nat)
    (node : Endpoint) :
    pending (.question client :: mail) sessions node = pending mail sessions node := by
  rw [pending, List.countP_cons, if_neg (by simp [RegistryMail.charges]), Nat.add_zero, pending]

theorem pending_cons_charge (mail : List RegistryMail) (sessions : List Activity)
    (charged : Endpoint) (amount : UInt64) (node : Endpoint) :
    pending (.addUsage charged amount :: mail) sessions node =
      pending mail sessions node + if charged = node then 1 else 0 := by
  rw [pending, List.countP_cons, ← Nat.add_assoc, pending]
  simp only [RegistryMail.charges, beq_iff_eq]

/-- A charge that is posted was expected. -/
theorem pending_charge_le (found : sessions[client]? = some old) {charged : Endpoint}
    (holds : old.held? = some charged) (free : new.held? = none) (amount : UInt64)
    (node : Endpoint) :
    pending (mail ++ [.addUsage charged amount]) (sessions.set client new) node ≤
      pending mail sessions node := by
  rw [pending, List.countP_append, List.countP_singleton]
  by_cases same : charged = node
  · subst node
    have fewer : (positions (sessions.set client new) fun _ => Activity.holds charged).card <
        (positions sessions fun _ => Activity.holds charged).card := by
      refine card_positions_set_lt found (fun _ _ _ => id) ?_ ?_
      · rw [Activity.holds, free]
        rfl
      · rw [Activity.holds, holds]
        exact beq_self_eq_true _
    rw [if_pos (by simp [RegistryMail.charges])]
    unfold pending
    omega
  · rw [if_neg (by simpa [RegistryMail.charges] using same), Nat.add_zero]
    exact pending_set_le found (fun node => by rw [free]; exact nofun) node

end Pending

/-! ## Levels -/

/-- With all its charges under way, no node is used more than another by more than a
bound. -/
def Level (bound : Nat) (registry : Registry) (charges : Endpoint → Nat) : Prop :=
  ∀ record ∈ registry.records, ∀ other ∈ registry.records,
    record.usage.toNat + 950 * charges record.endpoint ≤ other.usage.toNat + bound

namespace Level

variable {bound : Nat} {registry : Registry} {before : Endpoint → Nat}

/-- Usage may grow by what the charges shrink. -/
theorem mono (level : Level bound registry before) {after : Registry} {now : Endpoint → Nat}
    (origin : ∀ record ∈ after.records, ∃ old ∈ registry.records,
      old.usage.toNat ≤ record.usage.toNat ∧
      record.usage.toNat + 950 * now record.endpoint ≤
        old.usage.toNat + 950 * before old.endpoint) :
    Level bound after now := by
  intro record member other otherMember
  obtain ⟨old, oldMember, -, total⟩ := origin record member
  obtain ⟨oldOther, oldOtherMember, grown, -⟩ := origin other otherMember
  have within := level old oldMember oldOther oldOtherMember
  omega

theorem fewer (level : Level bound registry before) {now : Endpoint → Nat}
    (less : ∀ node, now node ≤ before node) : Level bound registry now := by
  refine level.mono fun record member => ⟨record, member, Nat.le_refl _, ?_⟩
  have atMost := less record.endpoint
  omega

/-- A charge is handled: the usage grows by at most what was expected of it. -/
theorem settle {now : Endpoint → Nat} {node : Endpoint} {amount : UInt64}
    (level : Level bound registry fun other => now other + if node = other then 1 else 0)
    (bounded : amount.toNat ≤ 950) : Level bound (registry.addUsage node amount) now := by
  refine level.mono fun record member => ?_
  obtain ⟨old, oldMember, rfl⟩ := List.mem_map.mp member
  refine ⟨old, oldMember, ?_⟩
  split
  · next charged =>
      have same : NodeRecord.endpoint { old with usage := saturatingSum old.usage amount } = node :=
        charged
      have below := old.usage.toNat_lt
      have size : UInt64.size = 2 ^ 64 := rfl
      rw [if_pos charged.symm, same, charged, toNat_saturatingSum]
      omega
  · next spared =>
      rw [if_neg (Ne.symm spared)]
      exact ⟨Nat.le_refl _, Nat.le_refl _⟩

/-- A node is picked: it is the least used, so all its charges fit into the bound. -/
theorem pick (level : Level bound registry before) {limit : Nat} (enough : 950 * limit ≤ bound)
    (distinct : (registry.records.map NodeRecord.endpoint).Nodup) {operator : Operator}
    (able : ∀ record ∈ registry.records, record.serves operator = true) {now : Endpoint → Nat}
    (more : ∀ node, now node ≤ before node + if registry.pick? operator = some node then 1 else 0)
    (room : ∀ node, before node + 1 ≤ limit) : Level bound registry now := by
  intro record member other otherMember
  have atMost := more record.endpoint
  split at atMost
  · next picked =>
      -- The picked node starts no higher than any other, so only its charges count.
      have least := Registry.usage_le_of_pick? distinct able picked member otherMember
      have free := room record.endpoint
      rw [UInt64.le_iff_toNat_le] at least
      omega
  · have within := level record member other otherMember
    omega

end Level

end ArithmeticCloud.Service
