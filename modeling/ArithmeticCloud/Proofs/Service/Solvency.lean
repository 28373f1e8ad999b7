import ArithmeticCloud.Proofs.Service.Charges
import ArithmeticCloud.Proofs.Service.Occupancy
import Mathlib

/-!
Contract: balances, while requests of many sessions are under way.

Owns:
- `ledger`, the balance that a record accounts for: what was there at the start
  and was bought, less the price of every sub-operation handed to a node;
- `Traffic.Solvent`: each balance covers what the one session that holds the user
  still owes and may still spend, and differs from the ledger by what is owed and
  what was bought just now. Every step keeps it.

Does not own: who holds a user, which `Traffic.Occupied` settles.
-/

namespace ArithmeticCloud.Service

open Billing Fleet Network

/-! ## The ledger of a record -/

/-- The user whom an entry of a record is about. -/
def Occurrence.user : Occurrence → Option String
  | .dispatched user | .responded user _ _ => user

/-- The credits that a user has bought by the request that is answered. -/
def Occurrence.bought (user : String) : Occurrence → Int
  | .responded (some name) line response => if name = user then purchase line response else 0
  | _ => 0

/-- The credits that a user has bought. -/
def bought (user : String) (record : List Occurrence) : Int :=
  (record.map (Occurrence.bought user)).sum

/-- The number of sub-operations handed to nodes for a user. -/
def dispatches (user : String) (record : List Occurrence) : Nat :=
  record.count (.dispatched (some user))

/-- The balance that a record accounts for. -/
def ledger (initial : Accounts) (user : String) (record : List Occurrence) : Int :=
  ((initial.credits? user).getD 0).toInt + bought user record - 50 * dispatches user record

/-- The ledger never exceeds the largest balance there is. -/
def Unsaturated (initial : Accounts) (user : String) (record : List Occurrence) : Prop :=
  ∀ earlier, earlier <+: record → ledger initial user earlier ≤ Int64.maxValue.toInt

theorem Unsaturated.earlier {initial : Accounts} {user : String} {record later : List Occurrence}
    (unsaturated : Unsaturated initial user (record ++ later)) :
    Unsaturated initial user record := by
  intro earlier isPrefix
  exact unsaturated earlier (isPrefix.trans (List.prefix_append record later))

theorem Unsaturated.now {initial : Accounts} {user : String} {record : List Occurrence}
    (unsaturated : Unsaturated initial user record) :
    ledger initial user record ≤ Int64.maxValue.toInt :=
  unsaturated record List.prefix_rfl

theorem ledger_append (initial : Accounts) (user : String) (record later : List Occurrence) :
    ledger initial user (record ++ later) =
      ledger initial user record + bought user later - 50 * dispatches user later := by
  unfold ledger bought dispatches
  rw [List.map_append, List.sum_append, List.count_append]
  push_cast
  omega

/-- Entries about others leave a ledger alone. -/
theorem ledger_append_of_others (initial : Accounts) {user : String}
    (record : List Occurrence) {later : List Occurrence}
    (others : ∀ occurrence ∈ later, occurrence.user ≠ some user) :
    ledger initial user (record ++ later) = ledger initial user record := by
  have nothingBought : bought user later = 0 := by
    refine List.sum_eq_zero fun amount summand => ?_
    rcases List.mem_map.mp summand with ⟨occurrence, member, rfl⟩
    cases occurrence with
    | dispatched name => rfl
    | responded name line response =>
        cases name with
        | none => rfl
        | some name =>
            have different : name ≠ user := by simpa [Occurrence.user] using others _ member
            exact if_neg different
  have nothingDispatched : dispatches user later = 0 :=
    List.count_eq_zero.mpr fun member => others _ member rfl
  rw [ledger_append, nothingBought, nothingDispatched]
  simp

/-! ## Balances that cover a standing -/

/-- A balance covers what is owed and what may be spent, and is what the ledger
says once debts and purchases under way are added. A sum that the largest balance
cut off is not accounted for. -/
structure Standing.Covered (standing : Standing) (initial : Accounts) (user : String)
    (record : List Occurrence) (balance : Int64) : Prop where
  reserve : 50 * ((standing.owed : Int) + standing.allowance) ≤ balance.toInt
  accounted : Unsaturated initial user record →
    ledger initial user record + 50 * standing.owed ≤ Int64.maxValue.toInt ∧
    balance.toInt = min (ledger initial user record + 50 * standing.owed + standing.gained)
      Int64.maxValue.toInt

namespace Standing.Covered

variable {initial : Accounts} {user : String} {record : List Occurrence} {standing : Standing}
  {balance : Int64}

theorem nonnegative (covered : standing.Covered initial user record balance) :
    0 ≤ balance.toInt := by
  have reserve := covered.reserve
  omega

/-- Entries about others change nothing. -/
theorem append_others (covered : standing.Covered initial user record balance)
    {later : List Occurrence} (others : ∀ occurrence ∈ later, occurrence.user ≠ some user) :
    standing.Covered initial user (record ++ later) balance where
  reserve := covered.reserve
  accounted := by
    intro unsaturated
    rw [ledger_append_of_others initial record others]
    exact covered.accounted unsaturated.earlier

/-- What the balance is seen to cover may be spent. -/
theorem allow (covered : standing.Covered initial user record balance) (paid : standing.owed = 0)
    (told : standing.gained = 0) {allowance : Nat}
    (affordable : 50 * (allowance : Int) ≤ max 0 balance.toInt) :
    Standing.Covered ⟨0, allowance, 0⟩ initial user record balance where
  reserve := by
    have positive := covered.nonnegative
    dsimp only
    omega
  accounted := by
    intro unsaturated
    have accounted := covered.accounted unsaturated
    rwa [paid, told] at accounted

/-- A sub-operation that is handed over is owed for. -/
theorem spend (covered : standing.Covered initial user record balance) {allowance : Nat}
    (allowed : standing.allowance = allowance + 1) :
    Standing.Covered ⟨standing.owed + 1, allowance, standing.gained⟩ initial user
      (record ++ [.dispatched (some user)]) balance where
  reserve := by
    have reserve := covered.reserve
    rw [allowed] at reserve
    push_cast at reserve ⊢
    omega
  accounted := by
    intro unsaturated
    have accounted := covered.accounted unsaturated.earlier
    have charged : ledger initial user (record ++ [.dispatched (some user)]) =
        ledger initial user record - 50 := by
      rw [ledger_append]
      simp [bought, Occurrence.bought, dispatches]
    rw [charged]
    push_cast
    omega

/-- A change of the balance that pays for what is owed, with what is bought. -/
theorem pay (covered : standing.Covered initial user record balance) (told : standing.gained = 0)
    {delta : Int64} {gain : Nat} (worth : delta.toInt = gain - 50 * (standing.owed : Int)) :
    Standing.Covered ⟨0, 0, gain⟩ initial user record (saturatingSignedSum balance delta) where
  reserve := by
    have reserve := covered.reserve
    have least : Int64.minValue.toInt = -2 ^ 63 := by decide
    have greatest : Int64.maxValue.toInt = 2 ^ 63 - 1 := by decide
    rw [toInt_saturatingSignedSum, worth, clampInt64, least, greatest]
    dsimp only
    omega
  accounted := by
    intro unsaturated
    have reserve := covered.reserve
    rcases covered.accounted unsaturated with ⟨fits, same⟩
    have now := unsaturated.now
    have least : Int64.minValue.toInt = -2 ^ 63 := by decide
    have greatest : Int64.maxValue.toInt = 2 ^ 63 - 1 := by decide
    rw [toInt_saturatingSignedSum, worth, clampInt64, least]
    rw [told] at same
    rw [greatest] at fits same now ⊢
    push_cast
    omega

/-- The response to a request that owes nothing tells what was bought. -/
theorem respond (covered : standing.Covered initial user record balance)
    (paid : standing.owed = 0) {line : String} {response : Response}
    (told : standing.gained = purchase line response) :
    Standing.clear.Covered initial user (record ++ [.responded (some user) line response])
      balance where
  reserve := by
    have positive := covered.nonnegative
    simpa [clear] using positive
  accounted := by
    intro unsaturated
    have accounted := covered.accounted unsaturated.earlier
    have now := unsaturated.now
    have entered : ledger initial user (record ++ [.responded (some user) line response]) =
        ledger initial user record + purchase line response := by
      rw [ledger_append]
      simp [bought, Occurrence.bought, dispatches]
    rw [entered] at now ⊢
    rw [paid, told] at accounted
    simp only [clear]
    omega

end Standing.Covered

/-- The balance of a user, if there is one, covers a standing. -/
def Backed (initial accounts : Accounts) (record : List Occurrence) (user : String)
    (standing : Standing) : Prop :=
  ∀ balance, accounts.credits? user = some balance → standing.Covered initial user record balance

/-! ## The invariant -/

/-- A request that an event brings is not too long to be priced. -/
def TrafficEvent.Bounded : TrafficEvent → Prop
  | .request _ line => (Request.ofLine line).Bounded
  | _ => True

instance : DecidablePred TrafficEvent.Bounded
  | .request _ line => inferInstanceAs (Decidable (Request.ofLine line).Bounded)
  | .leave _ | .act _ | .reply .. | .resume _ | .serveAccounts | .serveRegistry | .others _ =>
      .isTrue trivial

/-- What a session is doing agrees with a standing. -/
def Activity.Stands (standing : Standing) : Activity → Prop
  | .idle _ | .ended => standing = .clear
  | .due ⟨session, line, query, next⟩ => Prudent session line standing (.ask query next)
  -- The sub-operation of a query that was sent is owed for already.
  | .sent ⟨session, line, .compute _ _ _ _, next⟩ =>
      ∀ answer, Prudent session line standing (next answer)
  | .sent ⟨session, line, query, next⟩ => Prudent session line standing (.ask query next)
  | .answered ⟨session, line, _, next⟩ answer => Prudent session line standing (next answer)

namespace Traffic

/-- Every balance covers where the session that holds the user stands. -/
structure Solvent (initial : Accounts) (traffic : Traffic) (record : List Occurrence) : Prop where
  registryRuns : traffic.controller.registryRuns = true
  known : ∀ user, (traffic.controller.accounts.credits? user).isSome =
    (initial.credits? user).isSome
  held : ∀ activity ∈ traffic.sessions, ∃ standing, activity.Stands standing ∧
    ∀ user, activity.user = some user →
      Backed initial traffic.controller.accounts record user standing
  free : ∀ user, (∀ activity ∈ traffic.sessions, activity.user ≠ some user) →
    Backed initial traffic.controller.accounts record user .clear

theorem Solvent.start (ceiling : UInt64) {users : List User} (registry : Registry)
    (clients : Nat) (funded : ∀ user ∈ users, 0 ≤ user.credits) :
    (start ceiling users registry clients).Solvent (.ofUsers users) [] where
  registryRuns := rfl
  known := fun _ => rfl
  held := by
    intro activity member
    rw [List.eq_of_mem_replicate member]
    exact ⟨.clear, rfl, fun user held => nomatch held⟩
  free := by
    intro user _ balance found
    rcases Accounts.mem_of_credits?_ofUsers found with ⟨source, member, -, same⟩
    have enough : 0 ≤ balance.toInt := by
      rw [← same]
      exact Int64.le_iff_toInt_le.mp (funded source member)
    have within : balance.toInt ≤ Int64.maxValue.toInt := balance.toInt_le
    have opening : ledger (.ofUsers users) user [] = balance.toInt := by
      simp [ledger, bought, dispatches, show (Accounts.ofUsers users).credits? user = _ from found]
    refine ⟨by simpa [Standing.clear] using enough, fun _ => ?_⟩
    rw [opening]
    simp only [Standing.clear]
    omega

section Steps

variable {initial : Accounts} {traffic : Traffic} {record : List Occurrence} {client : Nat}

/-- A step that leaves sessions and balances alone. -/
theorem Solvent.of_same (after : Traffic) (solvent : traffic.Solvent initial record)
    (sessions : after.sessions = traffic.sessions)
    (registryRuns : after.controller.registryRuns = true)
    (balances : ∀ user, after.controller.accounts.credits? user =
      traffic.controller.accounts.credits? user) : after.Solvent initial record where
  registryRuns := registryRuns
  known := by
    intro user
    rw [balances]
    exact solvent.known user
  held := by
    intro activity member
    rw [sessions] at member
    rcases solvent.held activity member with ⟨standing, stands, backed⟩
    refine ⟨standing, stands, fun user holds balance found => ?_⟩
    rw [balances] at found
    exact backed user holds balance found
  free := by
    intro user unheld balance found
    rw [sessions] at unheld
    rw [balances] at found
    exact solvent.free user unheld balance found

theorem Solvent.heldAt {activity : Activity} (solvent : traffic.Solvent initial record)
    (found : traffic.sessions[client]? = some activity) :
    ∃ standing, activity.Stands standing ∧ ∀ user, activity.user = some user →
      Backed initial traffic.controller.accounts record user standing :=
  solvent.held activity (List.mem_of_getElem? found)

/-- A step of one session, which concerns the balance of its user alone. If it
takes up another user or gives its own up then it owes nothing. -/
theorem Solvent.step (after : Traffic) {old : Activity} (new : Activity)
    (occurrences : List Occurrence) {standing : Standing} (solvent : traffic.Solvent initial record)
    (exclusive : Exclusive traffic.sessions) (stillExclusive : Exclusive after.sessions)
    (found : traffic.sessions[client]? = some old)
    (sessions : after.sessions = traffic.sessions.set client new)
    (registryRuns : after.controller.registryRuns = true)
    (known : ∀ user, (after.controller.accounts.credits? user).isSome =
      (traffic.controller.accounts.credits? user).isSome)
    (apart : ∀ user, old.user ≠ some user → after.controller.accounts.credits? user =
      traffic.controller.accounts.credits? user)
    (concerned : ∀ occurrence ∈ occurrences, occurrence.user = old.user)
    (stands : new.Stands standing)
    (backed : ∀ user, old.user = some user →
      Backed initial after.controller.accounts (record ++ occurrences) user standing)
    (settled : new.user = old.user ∨ standing = .clear) :
    after.Solvent initial (record ++ occurrences) := by
  rcases List.getElem?_eq_some_iff.mp found with ⟨inside, -⟩
  have newAt : after.sessions[client]? = some new := by
    rw [sessions, List.getElem?_set_self inside]
  -- Whoever is not the user of this session keeps balance and ledger.
  have untouched {user : String} {standing : Standing} (others : old.user ≠ some user)
      (before : Backed initial traffic.controller.accounts record user standing) :
      Backed initial after.controller.accounts (record ++ occurrences) user standing := by
    intro balance credited
    rw [apart user others] at credited
    refine (before balance credited).append_others fun occurrence member => ?_
    rw [concerned occurrence member]
    exact others
  have elsewhere {position : Nat} (different : position ≠ client) :
      after.sessions[position]? = traffic.sessions[position]? := by
    rw [sessions, List.getElem?_set_ne different.symm]
  -- A user whom no other session holds now was held by nobody.
  have unheldBefore {user : String} (kept : old.user ≠ some user)
      (others : ∀ position other, position ≠ client → after.sessions[position]? = some other →
        other.user ≠ some user) : ∀ other ∈ traffic.sessions, other.user ≠ some user := by
    intro other member holds
    rcases List.mem_iff_getElem?.mp member with ⟨position, otherAt⟩
    have different : position ≠ client := by
      rintro rfl
      obtain rfl : old = other := Option.some.inj (found.symm.trans otherAt)
      exact kept holds
    exact others position other different ((elsewhere different).trans otherAt) holds
  refine ⟨registryRuns, fun user => (known user).trans (solvent.known user), ?_, ?_⟩
  · intro activity member
    rcases List.mem_iff_getElem?.mp member with ⟨position, activityAt⟩
    by_cases here : position = client
    · subst position
      obtain rfl : new = activity := Option.some.inj (newAt.symm.trans activityAt)
      refine ⟨standing, stands, fun user holds => ?_⟩
      by_cases kept : old.user = some user
      · exact backed user kept
      · have unowed : standing = .clear := by
          rcases settled with same | clear
          · exact absurd (same.symm.trans holds) kept
          · exact clear
        rw [unowed]
        refine untouched kept (solvent.free user (unheldBefore kept ?_))
        intro position other different otherAt otherHolds
        exact different (stillExclusive user _ _ _ _ otherAt newAt otherHolds holds)
    · rw [elsewhere here] at activityAt
      rcases solvent.heldAt activityAt with ⟨standing, stands, before⟩
      refine ⟨standing, stands, fun user holds => untouched ?_ (before user holds)⟩
      intro same
      exact here (exclusive user _ _ _ _ activityAt found holds same)
  · intro user unheld
    have notNew : new.user ≠ some user := unheld new (List.mem_of_getElem? newAt)
    by_cases gone : old.user = some user
    · have unowed : standing = .clear := by
        rcases settled with same | clear
        · exact absurd (same.trans gone) notNew
        · exact clear
      rw [← unowed]
      exact backed user gone
    · refine untouched gone (solvent.free user (unheldBefore gone ?_))
      intro position other different otherAt
      exact unheld other (List.mem_of_getElem? otherAt)

/-- A step of one session that leaves all balances alone and records nothing. -/
theorem Solvent.set {old : Activity} (new : Activity) {standing : Standing}
    (solvent : traffic.Solvent initial record) (exclusive : Exclusive traffic.sessions)
    (found : traffic.sessions[client]? = some old) (stands : new.Stands standing)
    (backed : ∀ user, old.user = some user →
      Backed initial traffic.controller.accounts record user standing)
    (same : new.user = old.user) : (traffic.set client new).Solvent initial record := by
  have stepped := solvent.step (traffic.set client new) new [] exclusive
    (exclusive.set new found same) found rfl solvent.registryRuns (fun _ => rfl) (fun _ _ => rfl)
    (by simp) stands (by rw [List.append_nil]; exact backed) (.inl same)
  rwa [List.append_nil] at stepped

/-- A session goes on with a prudent rest of a request. -/
theorem goOn_solvent {old : Activity} {session : Session} {line : String} {standing : Standing}
    {process : Process (Response × Session)} (solvent : traffic.Solvent initial record)
    (exclusive : Exclusive traffic.sessions)
    (stillExclusive : Exclusive (traffic.goOn client session line process).1.sessions)
    (found : traffic.sessions[client]? = some old) (holds : old.user = session.user)
    (prudent : Prudent session line standing process)
    (backed : ∀ user, old.user = some user →
      Backed initial traffic.controller.accounts record user standing) :
    (traffic.goOn client session line process).1.Solvent initial
      (record ++ (traffic.goOn client session line process).2) := by
  cases process with
  | done result =>
      cases prudent with
      | done response after paid told =>
          refine solvent.step _ (.idle after) [.responded session.user line response] exclusive
            stillExclusive found rfl solvent.registryRuns (fun _ => rfl) (fun _ _ => rfl) ?_ rfl ?_
            (.inr rfl)
          · intro occurrence member
            rw [List.mem_singleton.mp member]
            exact holds.symm
          · intro user held balance credited
            rw [holds] at held
            rw [held]
            exact (backed user (holds.trans held) balance credited).respond paid told
  | ask query next =>
      have kept := solvent.set (.due ⟨session, line, query, next⟩) exclusive found
        prudent backed holds.symm
      rwa [← List.append_nil record] at kept

theorem Solvent.postAccounts (solvent : traffic.Solvent initial record) (mail : AccountsMail) :
    (traffic.postAccounts mail).Solvent initial record :=
  solvent.of_same _ rfl solvent.registryRuns fun _ => rfl

theorem Solvent.postRegistry (solvent : traffic.Solvent initial record) (mail : RegistryMail) :
    (traffic.postRegistry mail).Solvent initial record :=
  solvent.of_same _ rfl solvent.registryRuns fun _ => rfl

theorem part_solvent {old : Activity} {session : Session} (solvent : traffic.Solvent initial record)
    (exclusive : Exclusive traffic.sessions)
    (stillExclusive : Exclusive (traffic.part client session).sessions)
    (found : traffic.sessions[client]? = some old)
    (backed : ∀ user, old.user = some user →
      Backed initial traffic.controller.accounts record user .clear) :
    (traffic.part client session).Solvent initial record := by
  have sessions : (traffic.part client session).sessions = traffic.sessions.set client .ended := by
    unfold part
    split <;> rfl
  have controller : (traffic.part client session).controller = traffic.controller := by
    unfold part
    split <;> rfl
  have stepped := solvent.step (traffic.part client session) .ended [] exclusive stillExclusive
    found sessions (by rw [controller]; exact solvent.registryRuns)
    (fun _ => by rw [controller]) (fun _ _ => by rw [controller]) (by simp) rfl
    (by rw [List.append_nil, controller]; exact backed) (.inr rfl)
  rwa [List.append_nil] at stepped

/-- A session makes a query. A sub-operation is within what is allowed, and is
owed for from now on. -/
theorem act_solvent {inquiry : Inquiry} (solvent : traffic.Solvent initial record)
    (exclusive : Exclusive traffic.sessions)
    (stillExclusive : Exclusive (traffic.act client inquiry).1.sessions)
    (found : traffic.sessions[client]? = some (.due inquiry)) :
    (traffic.act client inquiry).1.Solvent initial
      (record ++ (traffic.act client inquiry).2) := by
  rcases inquiry with ⟨session, line, query, next⟩
  rcases solvent.heldAt found with ⟨standing, prudent, backed⟩
  change Prudent session line standing (.ask query next) at prudent
  have submitted : (Activity.sent ⟨session, line, query, next⟩).Stands standing →
      (traffic.set client (.sent ⟨session, line, query, next⟩)).Solvent initial (record ++ []) := by
    intro stands
    rw [List.append_nil]
    exact solvent.set _ exclusive found stands backed rfl
  cases query with
  | login name password => exact (submitted prudent).postAccounts _
  | logout name =>
      exact goOn_solvent (solvent.postAccounts _) exclusive stillExclusive found rfl
        (prudent.rest_of_free trivial ()) backed
  | credits name => exact (submitted prudent).postAccounts _
  | adjust name delta => exact (submitted prudent).postAccounts _
  | availableOperators => exact (submitted prudent).postRegistry _
  | pick operator => exact (submitted prudent).postRegistry _
  | addUsage node amount =>
      exact goOn_solvent (solvent.postRegistry _) exclusive stillExclusive found rfl
        (prudent.rest_of_free trivial ()) backed
  | markOffline node =>
      exact goOn_solvent (solvent.postRegistry _) exclusive stillExclusive found rfl
        (prudent.rest_of_free trivial ()) backed
  | count text =>
      have counted := solvent.of_same { traffic with
          controller := (traffic.controller.answer .inPlace (.count text)).2 } rfl
        solvent.registryRuns fun _ => rfl
      exact goOn_solvent counted exclusive stillExclusive found rfl
        (prudent.rest_of_free trivial ()) backed
  | compute node left operator right =>
      cases prudent with
      | compute _ _ _ _ _ name held allowance allowed rest =>
          refine solvent.step _ _ _ exclusive stillExclusive found rfl solvent.registryRuns
            (fun _ => rfl) (fun _ _ => rfl) ?_ rest ?_ (.inl rfl)
          · intro occurrence member
            rw [List.mem_singleton.mp member]
            rfl
          · intro user holds balance credited
            change Standing.Covered _ initial user (record ++ [.dispatched session.user]) balance
            have same : session.user = some user := holds
            rw [same]
            exact (backed user holds balance credited).spend allowed
      | free _ _ isFree _ => exact isFree.elim

theorem reply_solvent {session : Session} {line : String} {node : Endpoint} {left : Int64}
    {operator : Operator} {right : Int64} {next : Except Fault Reply → Process (Response × Session)}
    (answer : Except Fault Reply) (solvent : traffic.Solvent initial record)
    (exclusive : Exclusive traffic.sessions)
    (found : traffic.sessions[client]? =
      some (.sent ⟨session, line, .compute node left operator right, next⟩)) :
    (traffic.set client
      (.answered ⟨session, line, .compute node left operator right, next⟩ answer)).Solvent
        initial record := by
  rcases solvent.heldAt found with ⟨standing, stands, backed⟩
  exact solvent.set _ exclusive found (stands answer) backed rfl

/-- An actor that has answered may have changed the balance of the user who
asked. -/
theorem Solvent.answered {inquiry : Inquiry} {answer : inquiry.query.Answer}
    {controller : Controller Unit} {standing : Standing}
    (solvent : traffic.Solvent initial record) (exclusive : Exclusive traffic.sessions)
    (found : traffic.sessions[client]? = some (.sent inquiry))
    (registryRuns : controller.registryRuns = true)
    (known : ∀ user, (controller.accounts.credits? user).isSome =
      (traffic.controller.accounts.credits? user).isSome)
    (apart : ∀ user, inquiry.session.user ≠ some user → controller.accounts.credits? user =
      traffic.controller.accounts.credits? user)
    (prudent : Prudent inquiry.session inquiry.line standing (inquiry.next answer))
    (backed : ∀ user, inquiry.session.user = some user →
      Backed initial controller.accounts record user standing) :
    ({ traffic with controller := controller }.set client (.answered inquiry answer)).Solvent
      initial record := by
  have stillExclusive : Exclusive (traffic.sessions.set client (.answered inquiry answer)) :=
    exclusive.set (.answered inquiry answer) found rfl
  have stepped := solvent.step
    (({ traffic with controller := controller } : Traffic).set client (.answered inquiry answer))
    (.answered inquiry answer) [] exclusive stillExclusive found rfl
    registryRuns known apart (by simp) prudent (by rw [List.append_nil]; exact backed) (.inl rfl)
  rwa [List.append_nil] at stepped

/-- While both actors run, a question is answered. -/
theorem handleQuestion_answered {inquiry : Inquiry} (solvent : traffic.Solvent initial record)
    (occupied : traffic.Occupied) (found : traffic.sessions[client]? = some (.sent inquiry)) :
    ∃ answer, (traffic.controller.answer .inPlace inquiry.query).1 = .ok answer ∧
      traffic.handleQuestion client =
        { traffic with controller := (traffic.controller.answer .inPlace inquiry.query).2 }.set
          client (.answered inquiry answer) := by
  obtain ⟨answer, answered⟩ := Controller.answer_ok .inPlace _ occupied.accountsRun
    solvent.registryRuns inquiry.query
  refine ⟨answer, answered, ?_⟩
  simp only [handleQuestion, found]
  split
  · next given controller same =>
      rw [same] at answered ⊢
      obtain rfl : given = answer := by simpa using answered
      rfl
  · next fault controller same =>
      rw [same] at answered
      cases answered

theorem registryRuns_answer (solvent : traffic.Solvent initial record)
    (occupied : traffic.Occupied) (query : Query) :
    (traffic.controller.answer .inPlace query).2.registryRuns = true :=
  (Controller.registryRuns_answer .inPlace _ occupied.accountsRun query).trans solvent.registryRuns

/-- The answer to a query that leaves balances alone. -/
theorem handleQuestion_unchanged {inquiry : Inquiry} {standing : Standing}
    (solvent : traffic.Solvent initial record) (occupied : traffic.Occupied)
    (found : traffic.sessions[client]? = some (.sent inquiry))
    (other : ∀ name delta, inquiry.query ≠ .adjust name delta)
    (prudent : ∀ answer,
      Prudent inquiry.session inquiry.line standing (inquiry.next answer))
    (backed : ∀ user, inquiry.session.user = some user →
      Backed initial traffic.controller.accounts record user standing) :
    (traffic.handleQuestion client).Solvent initial record := by
  rcases handleQuestion_answered solvent occupied found with ⟨answer, -, handled⟩
  have same := Controller.credits?_answer .inPlace traffic.controller occupied.accountsRun other
  rw [handled]
  refine solvent.answered occupied.exclusive found (registryRuns_answer solvent occupied _)
    (fun user => by rw [same]) (fun user _ => same user) (prudent answer)
    fun user holds balance credited => ?_
  rw [same] at credited
  exact backed user holds balance credited

/-- The answer to a question for the balance bounds what is allowed next. -/
theorem handleQuestion_credits {session : Session} {line name : String}
    {next : Option Int64 → Process (Response × Session)} {standing : Standing}
    (solvent : traffic.Solvent initial record) (occupied : traffic.Occupied)
    (found : traffic.sessions[client]? = some (.sent ⟨session, line, .credits name, next⟩))
    (prudent : Prudent session line standing (.ask (.credits name) next))
    (backed : ∀ user, session.user = some user →
      Backed initial traffic.controller.accounts record user standing) :
    (traffic.handleQuestion client).Solvent initial record := by
  rcases handleQuestion_answered solvent occupied found with ⟨answer, answered, handled⟩
  dsimp only at answered handled
  rw [Controller.answer_credits _ _ occupied.accountsRun] at answered handled
  obtain rfl := Except.ok.inj answered
  rw [handled]
  cases prudent with
  | credits _ _ held paid told allowance covered rest =>
      refine solvent.answered occupied.exclusive found solvent.registryRuns (fun _ => rfl)
        (fun _ _ => rfl) (rest _) fun user holds balance credited => ?_
      have same : user = name := Option.some.inj (holds.symm.trans held)
      subst same
      refine (backed user holds balance credited).allow paid told ?_
      simpa [credited] using covered (some balance)
  | free _ _ isFree _ => exact isFree.elim

/-- A change of the balance pays for what is owed. -/
theorem handleQuestion_adjust {session : Session} {line name : String} {delta : Int64}
    {next : Option Int64 → Process (Response × Session)} {standing : Standing}
    (solvent : traffic.Solvent initial record) (occupied : traffic.Occupied)
    (found : traffic.sessions[client]? = some (.sent ⟨session, line, .adjust name delta, next⟩))
    (prudent : Prudent session line standing (.ask (.adjust name delta) next))
    (backed : ∀ user, session.user = some user →
      Backed initial traffic.controller.accounts record user standing) :
    (traffic.handleQuestion client).Solvent initial record := by
  rcases handleQuestion_answered solvent occupied found with ⟨answer, -, handled⟩
  have adjusted (user : String) :
      (traffic.controller.answer .inPlace (.adjust name delta)).2.accounts.credits? user =
        if user = name then
          (traffic.controller.accounts.credits? name).map (saturatingSignedSum · delta)
        else traffic.controller.accounts.credits? user := by
    rw [Controller.answer_adjust _ _ occupied.accountsRun, Controller.accounts_deliver]
    exact Accounts.credits?_adjust _ name user delta
  rw [handled]
  cases prudent with
  | adjust _ _ _ held told gain worth rest =>
      refine solvent.answered occupied.exclusive found (registryRuns_answer solvent occupied _)
        (fun user => ?_) (fun user others => ?_) (rest _) fun user holds balance credited => ?_
      · rw [adjusted]
        split
        · next same => simp [same]
        · rfl
      · rw [adjusted, if_neg]
        rintro rfl
        exact others held
      · have same : user = name := Option.some.inj (holds.symm.trans held)
        subst same
        rw [adjusted, if_pos rfl] at credited
        rcases Option.map_eq_some_iff.mp credited with ⟨before, creditedBefore, rfl⟩
        exact (backed user holds before creditedBefore).pay told worth
  | free _ _ isFree _ => exact isFree.elim

theorem handleQuestion_solvent (solvent : traffic.Solvent initial record)
    (occupied : traffic.Occupied) : (traffic.handleQuestion client).Solvent initial record := by
  cases found : traffic.sessions[client]? with
  | none => simpa only [handleQuestion, found] using solvent
  | some activity =>
      cases activity with
      | sent inquiry =>
          rcases inquiry with ⟨session, line, query, next⟩
          rcases solvent.heldAt found with ⟨standing, stands, backed⟩
          cases query with
          | credits name => exact handleQuestion_credits solvent occupied found stands backed
          | adjust name delta => exact handleQuestion_adjust solvent occupied found stands backed
          | compute node left operator right =>
              exact handleQuestion_unchanged solvent occupied found (by simp) stands backed
          | _ =>
              exact handleQuestion_unchanged solvent occupied found (by simp)
                (Prudent.rest_of_free stands trivial) backed
      | _ => simpa only [handleQuestion, found] using solvent

end Steps

/-! ## Steps and runs -/

theorem step_solvent {initial : Accounts} {traffic after : Traffic} {event : TrafficEvent}
    {record occurrences : List Occurrence} (solvent : traffic.Solvent initial record)
    (occupied : traffic.Occupied) (bounded : event.Bounded)
    (stepped : traffic.step? event = some (after, occurrences)) :
    after.Solvent initial (record ++ occurrences) := by
  have exclusive := occupied.exclusive
  have stillExclusive : Exclusive after.sessions := (step_occupied occupied stepped).exclusive
  cases moves_of_step? stepped with
  | request line found =>
      rcases solvent.heldAt found with ⟨standing, rfl, backed⟩
      exact goOn_solvent solvent exclusive stillExclusive found rfl
        (handle_prudent _ line bounded) backed
  | leave found =>
      rcases solvent.heldAt found with ⟨standing, rfl, backed⟩
      rw [List.append_nil]
      exact part_solvent solvent exclusive stillExclusive found backed
  | act found => exact act_solvent solvent exclusive stillExclusive found
  | reply answer found =>
      rw [List.append_nil]
      exact reply_solvent answer solvent exclusive found
  | resume found =>
      rcases solvent.heldAt found with ⟨standing, prudent, backed⟩
      exact goOn_solvent solvent exclusive stillExclusive found rfl prudent backed
  | accountsQuestion waiting =>
      rw [List.append_nil]
      exact handleQuestion_solvent (solvent.of_same _ rfl solvent.registryRuns fun _ => rfl)
        (occupied.dropQuestion waiting)
  | @logout name rest waiting =>
      have told := Controller.tellAccounts_running traffic.controller occupied.accountsRun
        (·.logout name)
      rw [List.append_nil]
      refine solvent.of_same _ rfl ?_ fun user => ?_
      · rw [told]
        exact solvent.registryRuns
      · rw [told]
        exact Accounts.credits?_logout _ name user
  | registryQuestion waiting =>
      rw [List.append_nil]
      exact handleQuestion_solvent (solvent.of_same _ rfl solvent.registryRuns fun _ => rfl)
        (occupied.withRegistryMail _)
  | addUsage waiting =>
      rw [List.append_nil]
      exact solvent.of_same _ rfl (by simpa using solvent.registryRuns) fun user => by simp
  | markOffline waiting =>
      rw [List.append_nil]
      exact solvent.of_same _ rfl (by simpa using solvent.registryRuns) fun user => by simp
  | others request =>
      rw [List.append_nil]
      exact solvent.of_same _ rfl (by simpa using solvent.registryRuns) fun user => by simp

theorem run_solvent {initial : Accounts} {traffic after : Traffic} {events : List TrafficEvent}
    {record later : List Occurrence} (solvent : traffic.Solvent initial record)
    (occupied : traffic.Occupied) (bounded : ∀ event ∈ events, event.Bounded)
    (ran : traffic.run? events = some (after, later)) : after.Solvent initial (record ++ later) := by
  induction events generalizing traffic record later with
  | nil =>
      rcases Prod.mk.inj (Option.some.inj ran) with ⟨rfl, rfl⟩
      rwa [List.append_nil]
  | cons event others inductionHypothesis =>
      rcases run?_cons ran with ⟨middle, occurrences, rest, stepped, ranOn, rfl⟩
      rw [← List.append_assoc]
      exact inductionHypothesis (step_solvent solvent occupied (bounded event List.mem_cons_self)
        stepped) (step_occupied occupied stepped)
        (fun other member => bounded other (List.mem_cons_of_mem event member)) ranOn

/-! ## Balances -/

/-- Whom no session is busy for, owes nothing. -/
theorem Solvent.settled {initial : Accounts} {traffic : Traffic} {record : List Occurrence}
    (solvent : traffic.Solvent initial record) {user : String}
    (quiet : ∀ activity ∈ traffic.sessions, activity.user = some user → activity.isIdle = true) :
    Backed initial traffic.controller.accounts record user .clear := by
  by_cases held : ∃ activity ∈ traffic.sessions, activity.user = some user
  · rcases held with ⟨activity, member, holds⟩
    rcases solvent.held activity member with ⟨standing, stands, backed⟩
    have idle := quiet activity member holds
    have clear : standing = .clear := by
      cases activity with
      | idle session => exact stands
      | ended => exact stands
      | due inquiry => cases idle
      | sent inquiry => cases idle
      | answered inquiry answer => cases idle
    rw [← clear]
    exact backed user holds
  · exact solvent.free user fun activity member holds => held ⟨activity, member, holds⟩

theorem Solvent.nonnegative {initial : Accounts} {traffic : Traffic} {record : List Occurrence}
    (solvent : traffic.Solvent initial record) {user : String} {balance : Int64}
    (credited : traffic.controller.accounts.credits? user = some balance) :
    0 ≤ balance.toInt := by
  by_cases held : ∃ activity ∈ traffic.sessions, activity.user = some user
  · rcases held with ⟨activity, member, holds⟩
    rcases solvent.held activity member with ⟨standing, -, backed⟩
    exact (backed user holds balance credited).nonnegative
  · have free := solvent.free user fun activity member holds => held ⟨activity, member, holds⟩
    exact (free balance credited).nonnegative

/-- Every balance that sessions come to is at least 0, and while no request of its
user is in progress it is what was there at the start and was bought, less the
price of every sub-operation handed to a node. -/
theorem balances_are_accounted (ceiling : UInt64) (users : List User) (registry : Registry)
    (clients : Nat) {events : List TrafficEvent} {traffic : Traffic} {record : List Occurrence}
    (funded : ∀ user ∈ users, 0 ≤ user.credits) (bounded : ∀ event ∈ events, event.Bounded)
    (ran : (start ceiling users registry clients).run? events = some (traffic, record)) :
    (∀ name balance, traffic.controller.accounts.credits? name = some balance →
      0 ≤ balance.toInt) ∧
    ∀ name first, (Accounts.ofUsers users).credits? name = some first →
      ∃ balance, traffic.controller.accounts.credits? name = some balance ∧
        ((∀ activity ∈ traffic.sessions, activity.user = some name → activity.isIdle = true) →
          (∀ earlier, earlier <+: record →
            first.toInt + bought name earlier - 50 * dispatches name earlier ≤
              Int64.maxValue.toInt) →
          balance.toInt = first.toInt + bought name record - 50 * dispatches name record) := by
  have solvent : traffic.Solvent (.ofUsers users) ([] ++ record) :=
    run_solvent (.start ceiling registry clients funded)
      (.start ceiling users registry clients) bounded ran
  rw [List.nil_append] at solvent
  refine ⟨fun name balance credited => solvent.nonnegative credited, fun name first opening => ?_⟩
  have known := solvent.known name
  rw [opening] at known
  rcases Option.isSome_iff_exists.mp known with ⟨balance, credited⟩
  refine ⟨balance, credited, fun quiet fits => ?_⟩
  have entries (part : List Occurrence) : ledger (.ofUsers users) name part =
      first.toInt + bought name part - 50 * dispatches name part := by
    simp [ledger, opening]
  have unsaturated : Unsaturated (.ofUsers users) name record := by
    intro earlier isPrefix
    rw [entries]
    exact fits earlier isPrefix
  rcases (solvent.settled quiet balance credited).accounted unsaturated with ⟨within, same⟩
  rw [entries] at within same
  simp only [Standing.clear] at within same
  omega

/-- A client pays for a division by zero and buys credits afterwards. Another
client asks for the same user meanwhile. -/
theorem balances_are_accounted_purchase :
    ∃ traffic record balance,
      (start 300 [⟨"alice", "12345", 60⟩] ⟨[⟨.v4 .loopback, 7000, .all, 0, true, 0⟩]⟩ 2).run?
        [.request 0 "!login alice 12345", .act 0, .serveAccounts, .resume 0,
          .request 0 "!compute 8 / 0", .act 0, .act 0, .serveAccounts, .resume 0, .act 0,
          .serveRegistry, .resume 0, .act 0, .request 1 "!login alice 12345", .act 1,
          .reply 0 (.ok .divisionByZero), .resume 0, .act 0, .serveAccounts, .resume 1,
          .serveAccounts, .resume 0, .request 0 "!buy 40", .act 0, .serveAccounts, .resume 0] =
            some (traffic, record) ∧
      traffic.controller.accounts.credits? "alice" = some balance ∧
      balance.toInt = 60 + bought "alice" record - 50 * dispatches "alice" record ∧
      bought "alice" record = 40 ∧ dispatches "alice" record = 1 := by
  have possible : ((start 300 [⟨"alice", "12345", 60⟩]
      ⟨[⟨.v4 .loopback, 7000, .all, 0, true, 0⟩]⟩ 2).run?
        [.request 0 "!login alice 12345", .act 0, .serveAccounts, .resume 0,
          .request 0 "!compute 8 / 0", .act 0, .act 0, .serveAccounts, .resume 0, .act 0,
          .serveRegistry, .resume 0, .act 0, .request 1 "!login alice 12345", .act 1,
          .reply 0 (.ok .divisionByZero), .resume 0, .act 0, .serveAccounts, .resume 1,
          .serveAccounts, .resume 0, .request 0 "!buy 40", .act 0, .serveAccounts, .resume 0]).any
          (fun reached =>
            reached.1.sessions.all Activity.isIdle &&
            reached.2.inits.all (fun earlier =>
              60 + bought "alice" earlier - 50 * dispatches "alice" earlier ≤ 2 ^ 63 - 1) &&
            (bought "alice" reached.2 = 40 ∧ dispatches "alice" reached.2 = 1)) = true := by
    decide +kernel
  rcases (Option.any_eq_true _ _).mp possible with ⟨⟨traffic, record⟩, ran, checked⟩
  simp only [Bool.and_eq_true, List.all_eq_true, decide_eq_true_eq] at checked
  rcases checked with ⟨⟨idle, fits⟩, sums⟩
  obtain ⟨balance, credited, accounted⟩ :=
    (balances_are_accounted 300 [⟨"alice", "12345", 60⟩]
      ⟨[⟨.v4 .loopback, 7000, .all, 0, true, 0⟩]⟩ 2 (by decide) (by decide +kernel) ran).2
        "alice" 60 (by decide +kernel)
  refine ⟨traffic, record, balance, ran, credited, ?_, sums⟩
  exact accounted (fun activity member _ => idle activity member)
    fun earlier isPrefix => fits earlier ((List.mem_inits _ _).mpr isPrefix)

end Traffic

end ArithmeticCloud.Service
