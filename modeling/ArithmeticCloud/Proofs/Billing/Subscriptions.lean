import ArithmeticCloud.Billing.AccountsRequest
import ArithmeticCloud.Proofs.Billing.Accounts
import Mathlib.Data.List.Induction
import Mathlib.Data.Nat.Find

/-!
Contract: subscriptions over whole histories of requests to the accounts.

Owns:
- `history`, every request with its answer and the notification that it brought about;
- what one request does to the subscription of a user;
- `Fires` and `Stands`, in terms of a history alone, and that the accounts follow them:
  whoever has a subscription is one whose last accepted subscription has not fired.

Does not own: whether notifications arrive.
-/

namespace ArithmeticCloud.Billing

/-! ## Requests and what comes of them -/

/-- A request with its answer and the notification that it brought about. -/
structure Entry where
  request : AccountsRequest
  answer : AccountsAnswer
  sent : Option Notification
deriving DecidableEq, Repr

namespace Entry

/-- The subscription of a user that is accepted here. -/
def accepted? (entry : Entry) (user : String) : Option Subscription :=
  match entry.request, entry.answer with
  | .subscribe name threshold handle, .subscribed =>
      if name = user then some ⟨handle, threshold⟩ else none
  | _, _ => none

/-- The balance that an adjustment leaves a user here. -/
def balance? (entry : Entry) (user : String) : Option Int64 :=
  match entry.request, entry.answer with
  | .adjust name _, .balance (some credits) => if name = user then some credits else none
  | _, _ => none

/-- Whether an adjustment leaves the balance of a user below a threshold here. -/
def lowers (entry : Entry) (user : String) (threshold : Int64) : Bool :=
  (entry.balance? user).any (· < threshold)

end Entry

/-- The amounts by which a user's balance is adjusted. -/
def deltas (user : String) (requests : List AccountsRequest) : List Int64 :=
  requests.filterMap fun
    | .adjust name delta => if name = user then some delta else none
    | _ => none

theorem deltas_append (user : String) (earlier later : List AccountsRequest) :
    deltas user (earlier ++ later) = deltas user earlier ++ deltas user later :=
  List.filterMap_append

namespace Account

/-- What is not due stays. -/
theorem fire_eq (account : Account) :
    account.fire = { account with
      subscription := account.subscription.filter fun subscription =>
        !decide (account.credits < subscription.threshold) } := by
  rcases account with ⟨name, password, credits, online, subscription | subscription⟩
  · rfl
  · by_cases low : credits < subscription.threshold <;> simp [fire, due?, low, Option.filter_some]

theorem due?_eq_some_iff (account : Account) (notification : Notification) :
    account.due? = some notification ↔
      account.subscription = some ⟨notification.handle, notification.threshold⟩ ∧
        notification.user = account.name ∧ account.credits < notification.threshold := by
  rcases account with ⟨name, password, credits, online, subscription | ⟨handle, threshold⟩⟩
  · simp [due?]
  · rcases notification with ⟨wanted, user, bound⟩
    by_cases low : credits < threshold
    · simp only [due?, if_pos low, Option.some.injEq, Notification.mk.injEq,
        Subscription.mk.injEq]
      constructor
      · rintro ⟨rfl, rfl, rfl⟩
        exact ⟨⟨rfl, rfl⟩, rfl, low⟩
      · rintro ⟨⟨rfl, rfl⟩, rfl, -⟩
        exact ⟨rfl, rfl, rfl⟩
    · simp only [due?, if_neg low, Option.some.injEq, Subscription.mk.injEq, reduceCtorEq,
        false_iff]
      rintro ⟨⟨rfl, rfl⟩, -, lower⟩
      exact low lower

end Account

namespace Entry

/-- An account of a user after a request. A subscription stays until it is due, and another
one takes its place when it is accepted. -/
def revise (entry : Entry) (user : String) (online : Bool) (account : Account) : Account :=
  { account with
    online := online
    credits := (deltas user [entry.request]).foldl saturatingSignedSum account.credits
    subscription := (entry.accepted? user).or
      (account.subscription.filter fun subscription => !entry.lowers user subscription.threshold) }

/-- A request that neither adjusts nor subscribes a user shows in who is online only. -/
theorem revise_of_quiet {entry : Entry} {user : String} (unsubscribed : entry.accepted? user = none)
    (unchanged : deltas user [entry.request] = []) (untold : entry.balance? user = none)
    (online : Bool) : entry.revise user online = ({ · with online := online }) := by
  funext ⟨name, password, credits, shown, subscription⟩
  cases subscription <;> simp [revise, unsubscribed, unchanged, lowers, untold, Option.filter_some]

end Entry

namespace Accounts

def entry (accounts : Accounts) (request : AccountsRequest) : Entry :=
  ⟨request, (accounts.handle request).1, (accounts.handle request).2.1⟩

@[simp] theorem request_entry (accounts : Accounts) (request : AccountsRequest) :
    (accounts.entry request).request = request :=
  rfl

/-- What comes of requests, one after the other. -/
def history (accounts : Accounts) : List AccountsRequest → List Entry
  | [] => []
  | request :: later => accounts.entry request :: history (accounts.handle request).2.2 later

/-- The accounts after requests. -/
def after (accounts : Accounts) (requests : List AccountsRequest) : Accounts :=
  requests.foldl (fun accounts request => (accounts.handle request).2.2) accounts

theorem after_concat (accounts : Accounts) (requests : List AccountsRequest)
    (request : AccountsRequest) :
    accounts.after (requests ++ [request]) = ((accounts.after requests).handle request).2.2 :=
  List.foldl_append.trans rfl

theorem history_append (accounts : Accounts) (earlier later : List AccountsRequest) :
    accounts.history (earlier ++ later) =
      accounts.history earlier ++ (accounts.after earlier).history later := by
  induction earlier generalizing accounts with
  | nil => rfl
  | cons request rest inductionHypothesis =>
      rw [List.cons_append, history, inductionHypothesis]
      rfl

theorem map_request_history (accounts : Accounts) (requests : List AccountsRequest) :
    (accounts.history requests).map Entry.request = requests := by
  induction requests generalizing accounts with
  | nil => rfl
  | cons request rest inductionHypothesis =>
      rw [history, List.map_cons, inductionHypothesis, request_entry]

theorem history_take (accounts : Accounts) (requests : List AccountsRequest) (count : Nat) :
    accounts.history (requests.take count) = (accounts.history requests).take count := by
  induction requests generalizing accounts count with
  | nil => simp [history]
  | cons request rest inductionHypothesis =>
      cases count with
      | zero => rfl
      | succ count => rw [List.take_succ_cons, history, inductionHypothesis]; rfl

theorem getElem?_history (accounts : Accounts) (requests : List AccountsRequest) (position : Nat) :
    (accounts.history requests)[position]? =
      requests[position]?.map (accounts.after (requests.take position)).entry := by
  induction requests generalizing accounts position with
  | nil => rfl
  | cons request rest inductionHypothesis =>
      cases position with
      | zero => rfl
      | succ position => exact inductionHypothesis _ position

/-! ## What a request does -/

/-- The subscription of a user that has not fired. -/
def subscription? (accounts : Accounts) (user : String) : Option Subscription :=
  (accounts.find? user).bind Account.subscription

/-- Whether a subscription can be accepted. -/
def Admits (accounts : Accounts) (name : String) (threshold : Int64) : Prop :=
  1 ≤ threshold ∧ (accounts.find? name).isSome ∧ accounts.subscription? name = none

/-- A subscription is accepted, or refused without any effect. -/
theorem subscribe_cases (accounts : Accounts) (name : String) (threshold : Int64)
    (handle : CallbackHandle) :
    accounts.Admits name threshold ∧ accounts.subscribe name threshold handle =
        (.ok (), accounts.modify name ({ · with subscription := some ⟨handle, threshold⟩ })) ∨
      ¬ accounts.Admits name threshold ∧ ∃ refusal,
        accounts.subscribe name threshold handle = (.error refusal, accounts) := by
  unfold subscribe Admits subscription?
  by_cases small : threshold < 1
  · rw [if_pos small]
    exact .inr ⟨fun admitted => Int64.not_lt.mpr admitted.1 small, _, rfl⟩
  · rw [if_neg small]
    cases found : accounts.find? name with
    | none => exact .inr ⟨by simp, _, rfl⟩
    | some account =>
        dsimp only
        by_cases active : account.subscription.isSome = true
        · rw [if_pos active]
          refine .inr ⟨fun admitted => ?_, _, rfl⟩
          exact Option.isSome_iff_ne_none.mp active admitted.2.2
        · rw [if_neg active]
          exact .inl ⟨⟨Int64.not_lt.mp small, rfl, by simpa using active⟩, rfl⟩

theorem handle_subscribe_cases (accounts : Accounts) (name : String) (threshold : Int64)
    (handle : CallbackHandle) :
    accounts.Admits name threshold ∧ accounts.handle (.subscribe name threshold handle) =
        (.subscribed, none,
          accounts.modify name ({ · with subscription := some ⟨handle, threshold⟩ })) ∨
      ¬ accounts.Admits name threshold ∧ ∃ refusal,
        accounts.handle (.subscribe name threshold handle) = (.refused refusal, none, accounts) := by
  rcases accounts.subscribe_cases name threshold handle with
    ⟨admitted, subscribed⟩ | ⟨refused, refusal, subscribed⟩
  · exact .inl ⟨admitted, by simp only [Accounts.handle, subscribed]⟩
  · exact .inr ⟨refused, refusal, by simp only [Accounts.handle, subscribed]⟩

/-- An account that is the same is the same up to who is online. -/
theorem exists_online_of_eq {accounts after : Accounts} {user : String}
    (same : after.find? user = accounts.find? user) :
    ∃ online, after.find? user = (accounts.find? user).map ({ · with online := online }) := by
  rw [same]
  cases accounts.find? user with
  | none => exact ⟨false, rfl⟩
  | some account => exact ⟨account.online, rfl⟩

theorem exists_online_setOnline (accounts : Accounts) (name user : String) (shown : Bool) :
    ∃ online, (accounts.setOnline name shown).find? user =
      (accounts.find? user).map ({ · with online := online }) := by
  have after := accounts.find?_setOnline name user shown
  by_cases concerned : user = name
  · subst user
    exact ⟨shown, after.trans (if_pos rfl)⟩
  · exact exists_online_of_eq (after.trans (if_neg concerned))

theorem exists_online_login (accounts : Accounts) (name password user : String) :
    ∃ online, (accounts.login name password).2.find? user =
      (accounts.find? user).map ({ · with online := online }) := by
  rcases accounts.login_cases name password with ⟨-, -, -, after⟩ | ⟨-, after⟩
  · rw [after]
    exact accounts.exists_online_setOnline name user true
  · rw [after]
    exact exists_online_of_eq rfl

theorem fst_adjust (accounts : Accounts) (name : String) (delta : Int64) :
    (accounts.adjust name delta).1 =
      (accounts.credits? name).map (saturatingSignedSum · delta) := by
  unfold adjust credits?
  cases accounts.find? name <;> rfl

theorem entry_adjust (accounts : Accounts) (name : String) (delta : Int64) :
    accounts.entry (.adjust name delta) =
      ⟨.adjust name delta, .balance ((accounts.credits? name).map (saturatingSignedSum · delta)),
        (accounts.adjust name delta).2.1⟩ := by
  rw [← fst_adjust]
  rfl

theorem balance?_entry_adjust (accounts : Accounts) (name user : String) (delta : Int64) :
    (accounts.entry (.adjust name delta)).balance? user =
      if name = user then (accounts.credits? user).map (saturatingSignedSum · delta) else none := by
  rw [entry_adjust, Entry.balance?]
  by_cases concerned : name = user
  · subst name
    cases accounts.credits? user <;> simp
  · cases accounts.credits? name <;> simp [concerned]

/-- The account of a user after a request that neither adjusts nor subscribes the user. -/
theorem exists_revise_of_quiet {accounts after : Accounts} {entry : Entry} {user : String}
    (unsubscribed : entry.accepted? user = none) (unchanged : deltas user [entry.request] = [])
    (untold : entry.balance? user = none)
    (shown : ∃ online, after.find? user =
      (accounts.find? user).map ({ · with online := online })) :
    ∃ online, after.find? user = (accounts.find? user).map (entry.revise user online) := by
  obtain ⟨online, shown⟩ := shown
  exact ⟨online, by rw [Entry.revise_of_quiet unsubscribed unchanged untold, shown]⟩

theorem find?_handle_adjust (accounts : Accounts) (name user : String) (delta : Int64) :
    ∃ online, (accounts.handle (.adjust name delta)).2.2.find? user =
      (accounts.find? user).map ((accounts.entry (.adjust name delta)).revise user online) := by
  have after := accounts.find?_adjust name user delta
  have unsubscribed : (accounts.entry (.adjust name delta)).accepted? user = none := rfl
  have told := accounts.balance?_entry_adjust name user delta
  by_cases concerned : name = user
  · subst name
    rw [if_pos rfl] at after told
    rw [credits?] at told
    cases found : accounts.find? user with
    | none =>
        rw [found] at after
        exact ⟨false, after⟩
    | some account =>
        rw [found] at after told
        refine ⟨account.online, after.trans (congrArg some ?_)⟩
        dsimp only
        rw [Account.fire_eq]
        simp [Entry.revise, Entry.lowers, told, deltas, unsubscribed]
  · exact exists_revise_of_quiet unsubscribed (by simp [deltas, concerned])
      (told.trans (if_neg concerned))
      (exists_online_of_eq (after.trans (if_neg (Ne.symm concerned))))

theorem find?_handle_subscribe (accounts : Accounts) (name user : String) (threshold : Int64)
    (handle : CallbackHandle) :
    ∃ online, (accounts.handle (.subscribe name threshold handle)).2.2.find? user =
      (accounts.find? user).map
        ((accounts.entry (.subscribe name threshold handle)).revise user online) := by
  rcases accounts.handle_subscribe_cases name threshold handle with
    ⟨⟨-, known, -⟩, handled⟩ | ⟨-, refusal, handled⟩
  · have after := accounts.find?_modify name user
      ({ · with subscription := some ⟨handle, threshold⟩ }) fun _ same => same
    have accepted : (accounts.entry (.subscribe name threshold handle)).accepted? user =
        if name = user then some ⟨handle, threshold⟩ else none := by
      rw [entry, handled]
      rfl
    rw [handled]
    by_cases concerned : name = user
    · subst name
      obtain ⟨account, found⟩ := Option.isSome_iff_exists.mp known
      refine ⟨account.online, after.trans ?_⟩
      rw [if_pos rfl, found]
      refine congrArg some ?_
      simp [Entry.revise, accepted, deltas]
    · exact exists_revise_of_quiet (accepted.trans (if_neg concerned)) rfl rfl
        (exists_online_of_eq (after.trans (if_neg (Ne.symm concerned))))
  · refine exists_revise_of_quiet ?_ rfl rfl (exists_online_of_eq (by rw [handled]))
    rw [entry, handled]
    rfl

section Handling

variable (accounts : Accounts) (request : AccountsRequest) (user : String)

/-- All that a request does to an account. -/
theorem find?_handle :
    ∃ online, (accounts.handle request).2.2.find? user =
      (accounts.find? user).map ((accounts.entry request).revise user online) := by
  cases request with
  | login name password =>
      exact exists_revise_of_quiet rfl rfl rfl (accounts.exists_online_login name password user)
  | logout name =>
      exact exists_revise_of_quiet rfl rfl rfl (accounts.exists_online_setOnline name user false)
  | credits _ | users => exact exists_revise_of_quiet rfl rfl rfl (exists_online_of_eq rfl)
  | adjust name delta => exact accounts.find?_handle_adjust name user delta
  | subscribe name threshold handle =>
      exact accounts.find?_handle_subscribe name user threshold handle

theorem isSome_find?_handle :
    ((accounts.handle request).2.2.find? user).isSome = (accounts.find? user).isSome := by
  obtain ⟨online, after⟩ := accounts.find?_handle request user
  rw [after, Option.isSome_map]

theorem credits?_handle :
    (accounts.handle request).2.2.credits? user =
      (accounts.credits? user).map (deltas user [request] |>.foldl saturatingSignedSum) := by
  obtain ⟨online, after⟩ := accounts.find?_handle request user
  rw [credits?, after, credits?, Option.map_map, Option.map_map]
  rfl

/-- When a subscription is accepted. -/
theorem accepted?_entry_iff (subscription : Subscription) :
    (accounts.entry request).accepted? user = some subscription ↔
      request = .subscribe user subscription.threshold subscription.handle ∧
        accounts.Admits user subscription.threshold := by
  rcases subscription with ⟨wanted, bound⟩
  cases request with
  | subscribe name threshold handle =>
      rw [AccountsRequest.subscribe.injEq]
      rcases accounts.handle_subscribe_cases name threshold handle with
        ⟨admitted, handled⟩ | ⟨refused, refusal, handled⟩
      · rw [entry, handled]
        simp only [Entry.accepted?, Option.ite_none_right_eq_some, Option.some.injEq,
          Subscription.mk.injEq]
        constructor
        · rintro ⟨rfl, rfl, rfl⟩
          exact ⟨⟨rfl, rfl, rfl⟩, admitted⟩
        · rintro ⟨⟨rfl, rfl, rfl⟩, -⟩
          exact ⟨rfl, rfl, rfl⟩
      · rw [entry, handled]
        refine ⟨fun accepted => (Option.some_ne_none _ accepted.symm).elim, ?_⟩
        rintro ⟨⟨rfl, rfl, rfl⟩, admitted⟩
        exact absurd admitted refused
  | _ => simp [entry, Entry.accepted?]

theorem subscription?_handle :
    (accounts.handle request).2.2.subscription? user =
      ((accounts.entry request).accepted? user).or
        ((accounts.subscription? user).filter fun subscription =>
          !(accounts.entry request).lowers user subscription.threshold) := by
  obtain ⟨online, after⟩ := accounts.find?_handle request user
  rw [subscription?, after, subscription?]
  cases found : accounts.find? user with
  | some account => rfl
  | none =>
      cases accepted : (accounts.entry request).accepted? user with
      | none => rfl
      | some subscription =>
          have known := ((accounts.accepted?_entry_iff request user subscription).mp accepted).2.2.1
          rw [found] at known
          cases known

theorem answer_subscribe_iff (name : String) (threshold : Int64) (handle : CallbackHandle) :
    (accounts.entry (.subscribe name threshold handle)).answer = .subscribed ↔
      accounts.Admits name threshold := by
  rcases accounts.handle_subscribe_cases name threshold handle with
    ⟨admitted, handled⟩ | ⟨refused, refusal, handled⟩
  · simp [entry, handled, admitted]
  · simp [entry, handled, refused]

/-- A notification is sent when a subscription is due. -/
theorem sent_entry_iff (notification : Notification) :
    (accounts.entry request).sent = some notification ↔
      accounts.subscription? notification.user =
          some ⟨notification.handle, notification.threshold⟩ ∧
        (accounts.entry request).lowers notification.user notification.threshold = true := by
  cases request with
  | adjust name delta =>
      have sent : (accounts.entry (.adjust name delta)).sent =
          (accounts.find? name).bind fun account =>
            ({ account with credits := saturatingSignedSum account.credits delta } : Account).due? := by
        rw [entry_adjust, adjust]
        cases accounts.find? name <;> rfl
      rw [Entry.lowers, balance?_entry_adjust, sent]
      by_cases concerned : name = notification.user
      · subst name
        rw [if_pos rfl, subscription?, credits?]
        cases found : accounts.find? notification.user with
        | none => simp
        | some account => simp [Account.due?_eq_some_iff, name_of_find? found]
      · rw [if_neg concerned]
        cases found : accounts.find? name with
        | none => simp
        | some account =>
            have other : account.name ≠ notification.user := name_of_find? found ▸ concerned
            simp [Account.due?_eq_some_iff, other.symm]
  | subscribe name threshold handle =>
      have unlowered : (accounts.entry (.subscribe name threshold handle)).lowers
          notification.user notification.threshold = false := rfl
      rw [unlowered]
      rcases accounts.handle_subscribe_cases name threshold handle with
        ⟨-, handled⟩ | ⟨-, refusal, handled⟩ <;> simp [entry, handled]
  | _ => simp [entry, Accounts.handle, Entry.lowers, Entry.balance?]

/-- Whether a notification about a user is sent. -/
theorem any_sent_entry :
    ((accounts.entry request).sent.any (·.user == user)) =
      (accounts.subscription? user).any fun subscription =>
        (accounts.entry request).lowers user subscription.threshold := by
  rw [Bool.eq_iff_iff, Option.any_eq_true, Option.any_eq_true]
  constructor
  · rintro ⟨notification, sent, named⟩
    obtain rfl : notification.user = user := by simpa using named
    obtain ⟨held, lowers⟩ := (accounts.sent_entry_iff request notification).mp sent
    exact ⟨_, held, lowers⟩
  · rintro ⟨⟨handle, threshold⟩, held, lowers⟩
    exact ⟨⟨handle, user, threshold⟩,
      (accounts.sent_entry_iff request _).mpr ⟨held, lowers⟩, beq_self_eq_true user⟩

end Handling

theorem credits?_after (accounts : Accounts) (requests : List AccountsRequest) (user : String) :
    (accounts.after requests).credits? user =
      (accounts.credits? user).map ((deltas user requests).foldl saturatingSignedSum) := by
  induction requests using List.reverseRecOn with
  | nil => exact Option.map_id'.symm
  | append_singleton earlier request inductionHypothesis =>
      rw [after_concat, credits?_handle, inductionHypothesis, Option.map_map, deltas_append]
      congr 1
      funext credits
      exact List.foldl_append.symm

end Accounts

/-! ## Positions in a history -/

section Positions

variable {log : List Entry} {user : String} {subscription other : Subscription}

theorem exists_mem_getElem?_concat {entry : Entry} {position : Nat} {Has : Entry → Prop} :
    (∃ found ∈ (log ++ [entry])[position]?, Has found) ↔
      (∃ found ∈ log[position]?, Has found) ∨ position = log.length ∧ Has entry := by
  rcases Nat.lt_trichotomy position log.length with inside | rfl | beyond
  · simp [List.getElem?_append_left inside, Nat.ne_of_lt inside]
  · simp
  · have nothing : log[position]? = none := List.getElem?_eq_none (Nat.le_of_lt beyond)
    have nothingMore : (log ++ [entry])[position]? = none :=
      List.getElem?_eq_none (by rw [List.length_append]; exact beyond)
    simp [nothing, nothingMore, Nat.ne_of_gt beyond]

theorem exists_mem_getElem?_take {position count : Nat} {Has : Entry → Prop} :
    (∃ found ∈ (log.take count)[position]?, Has found) ↔
      position < count ∧ ∃ found ∈ log[position]?, Has found := by
  rw [List.getElem?_take]
  split
  · next before => simp [before]
  · next beyond => simp [beyond]

/-- A subscription of a user is accepted at a position. -/
def AcceptedAt (log : List Entry) (user : String) (subscription : Subscription)
    (position : Nat) : Prop :=
  ∃ entry ∈ log[position]?, entry.accepted? user = some subscription

/-- An adjustment leaves the balance of a user below a threshold at a position. -/
def LowersAt (log : List Entry) (user : String) (threshold : Int64) (position : Nat) : Prop :=
  ∃ entry ∈ log[position]?, entry.lowers user threshold = true

/-- A subscription is accepted at the start, and the finish is where the balance is first
left below its threshold afterwards. -/
structure Fires (log : List Entry) (user : String) (subscription : Subscription)
    (start finish : Nat) : Prop where
  accepted : AcceptedAt log user subscription start
  later : start < finish
  lowers : LowersAt log user subscription.threshold finish
  first : ∀ position, start < position → position < finish →
    ¬ LowersAt log user subscription.threshold position

/-- A subscription is accepted at the start, and the balance has not been left below its
threshold since. -/
structure Stands (log : List Entry) (user : String) (subscription : Subscription)
    (start : Nat) : Prop where
  accepted : AcceptedAt log user subscription start
  waits : ∀ position, start < position → ¬ LowersAt log user subscription.threshold position

theorem fires_iff {start finish : Nat} :
    Fires log user subscription start finish ↔
      Stands (log.take finish) user subscription start ∧
        LowersAt log user subscription.threshold finish := by
  constructor
  · intro fires
    refine ⟨⟨exists_mem_getElem?_take.mpr ⟨fires.later, fires.accepted⟩, ?_⟩, fires.lowers⟩
    intro position after lowers
    obtain ⟨before, lowers⟩ := exists_mem_getElem?_take.mp lowers
    exact fires.first position after before lowers
  · rintro ⟨stands, lowers⟩
    obtain ⟨later, accepted⟩ := exists_mem_getElem?_take.mp stands.accepted
    refine ⟨accepted, later, lowers, fun position after before lowered => ?_⟩
    exact stands.waits position after (exists_mem_getElem?_take.mpr ⟨before, lowered⟩)

/-- What was accepted earlier has fired, or stands. -/
theorem fires_or_stands {start moment : Nat} (before : start < moment)
    (accepted : AcceptedAt log user subscription start) :
    (∃ finish, finish < moment ∧ Fires log user subscription start finish) ∨
      Stands (log.take moment) user subscription start := by
  classical
  by_cases lowered : ∃ position, start < position ∧ position < moment ∧
      LowersAt log user subscription.threshold position
  · -- It fires at the first such position.
    obtain ⟨later, early, lowers⟩ := Nat.find_spec lowered
    refine .inl ⟨Nat.find lowered, early, accepted, later, lowers, ?_⟩
    intro position after first lowersToo
    exact Nat.find_min lowered first ⟨after, Nat.lt_trans first early, lowersToo⟩
  · refine .inr ⟨exists_mem_getElem?_take.mpr ⟨before, accepted⟩, ?_⟩
    intro position after lowers
    obtain ⟨early, lowers⟩ := exists_mem_getElem?_take.mp lowers
    exact lowered ⟨position, after, early, lowers⟩

/-- A subscription fires once. -/
theorem Fires.finish_eq {start finish ended : Nat}
    (fires : Fires log user subscription start finish)
    (firesToo : Fires log user other start ended) : finish = ended := by
  obtain rfl : subscription = other := by
    obtain ⟨entry, found, accepted⟩ := fires.accepted
    obtain ⟨same, foundToo, acceptedToo⟩ := firesToo.accepted
    obtain rfl := Option.mem_unique found foundToo
    exact Option.mem_unique accepted acceptedToo
  rcases Nat.lt_trichotomy finish ended with early | rfl | early
  · exact absurd fires.lowers (firesToo.first finish fires.later early)
  · rfl
  · exact absurd firesToo.lowers (fires.first ended firesToo.later early)

theorem not_stands_of_fires {start finish moment : Nat} (early : finish < moment)
    (fires : Fires log user subscription start finish) :
    ¬ Stands (log.take moment) user subscription start :=
  fun stands => stands.waits finish fires.later
    (exists_mem_getElem?_take.mpr ⟨early, fires.lowers⟩)

/-- What stands after one more entry stood before it, or is accepted by it. -/
theorem stands_concat_iff {entry : Entry} {start : Nat} :
    Stands (log ++ [entry]) user subscription start ↔
      Stands log user subscription start ∧ entry.lowers user subscription.threshold = false ∨
        start = log.length ∧ entry.accepted? user = some subscription := by
  have inside {position : Nat} {Has : Entry → Prop}
      (found : ∃ entry ∈ log[position]?, Has entry) : position < log.length := by
    obtain ⟨entry, member, -⟩ := found
    exact (List.getElem?_eq_some_iff.mp member).1
  constructor
  · intro stands
    rcases exists_mem_getElem?_concat.mp stands.accepted with accepted | new
    · refine .inl ⟨⟨accepted, fun position after lowers => ?_⟩, ?_⟩
      · exact stands.waits position after (exists_mem_getElem?_concat.mpr (.inl lowers))
      · rw [Bool.eq_false_iff]
        intro lowers
        exact stands.waits log.length (inside accepted)
          (exists_mem_getElem?_concat.mpr (.inr ⟨rfl, lowers⟩))
    · exact .inr new
  · rintro (⟨stands, spared⟩ | ⟨rfl, accepted⟩)
    · refine ⟨exists_mem_getElem?_concat.mpr (.inl stands.accepted), fun position after lowers => ?_⟩
      rcases exists_mem_getElem?_concat.mp lowers with lowers | ⟨-, lowers⟩
      · exact stands.waits position after lowers
      · exact absurd lowers (Bool.eq_false_iff.mp spared)
    · refine ⟨exists_mem_getElem?_concat.mpr (.inr ⟨rfl, accepted⟩), fun position after lowers => ?_⟩
      rcases exists_mem_getElem?_concat.mp lowers with lowers | ⟨last, -⟩
      · exact absurd (inside lowers) (Nat.lt_asymm after)
      · exact absurd last (Nat.ne_of_gt after)

end Positions

/-! ## The accounts follow the history -/

/-- How many subscriptions of a user were accepted. -/
def acceptances (log : List Entry) (user : String) : Nat :=
  log.countP fun entry => (entry.accepted? user).isSome

/-- How many notifications about a user were sent. -/
def notices (log : List Entry) (user : String) : Nat :=
  log.countP fun entry => entry.sent.any (·.user == user)

/-- The subscriptions are those that stand in the history, at most one for each user, and
every other one was answered with a notification. -/
structure Follows (users : List User) (log : List Entry) (accounts : Accounts) : Prop where
  known : ∀ name, (accounts.find? name).isSome ↔ ∃ user ∈ users, user.name = name
  standing : ∀ name subscription, accounts.subscription? name = some subscription ↔
    ∃ start, Stands log name subscription start
  single : ∀ name subscription other start begun, Stands log name subscription start →
    Stands log name other begun → start = begun
  counted : ∀ name, acceptances log name =
    notices log name + if (accounts.subscription? name).isSome then 1 else 0

namespace Follows

theorem ofUsers (users : List User) : Follows users [] (.ofUsers users) := by
  have untold (name : String) : (Accounts.ofUsers users).subscription? name = none := by
    rw [Accounts.subscription?, Accounts.find?_ofUsers]
    cases users.reverse.find? (·.name == name) <;> rfl
  refine ⟨fun name => ?_, fun name subscription => ?_, ?_, fun name => ?_⟩
  · rw [Accounts.find?_ofUsers]
    simp
  · rw [untold]
    constructor
    · intro absurdity
      cases absurdity
    · rintro ⟨start, ⟨entry, member, -⟩, -⟩
      simp at member
  · rintro name subscription other start begun ⟨⟨entry, member, -⟩, -⟩
    simp at member
  · rw [untold]
    rfl

variable {users : List User} {log : List Entry} {accounts : Accounts}
  (follows : Follows users log accounts)
include follows

/-- A subscription is accepted only where none stands. -/
theorem not_stands_of_accepted {request : AccountsRequest} {name : String}
    {subscription other : Subscription} {start : Nat}
    (accepted : (accounts.entry request).accepted? name = some subscription) :
    ¬ Stands log name other start := by
  intro stands
  have none := ((accounts.accepted?_entry_iff request name subscription).mp accepted).2.2.2
  rw [(follows.standing name other).mpr ⟨start, stands⟩] at none
  cases none

theorem step (request : AccountsRequest) :
    Follows users (log ++ [accounts.entry request]) (accounts.handle request).2.2 := by
  refine ⟨fun name => ?_, fun name subscription => ?_, ?_, fun name => ?_⟩
  · rw [accounts.isSome_find?_handle, follows.known]
  · rw [accounts.subscription?_handle, Option.or_eq_some_iff, Option.filter_eq_some_iff,
      follows.standing]
    simp only [stands_concat_iff, Bool.not_eq_true']
    constructor
    · rintro (accepted | ⟨-, ⟨start, stands⟩, spared⟩)
      · exact ⟨log.length, .inr ⟨rfl, accepted⟩⟩
      · exact ⟨start, .inl ⟨stands, spared⟩⟩
    · rintro ⟨start, ⟨stands, spared⟩ | ⟨-, accepted⟩⟩
      · refine .inr ⟨?_, ⟨start, stands⟩, spared⟩
        rw [Option.eq_none_iff_forall_ne_some]
        exact fun other accepted => follows.not_stands_of_accepted accepted stands
      · exact .inl accepted
  · intro name subscription other start begun stands standsToo
    rw [stands_concat_iff] at stands standsToo
    rcases stands with ⟨stands, -⟩ | ⟨rfl, accepted⟩ <;>
      rcases standsToo with ⟨standsToo, -⟩ | ⟨rfl, acceptedToo⟩
    · exact follows.single name subscription other start begun stands standsToo
    · exact absurd stands (follows.not_stands_of_accepted acceptedToo)
    · exact absurd standsToo (follows.not_stands_of_accepted accepted)
    · rfl
  · have counted := follows.counted name
    unfold acceptances notices at counted ⊢
    rw [List.countP_append, List.countP_append, List.countP_singleton, List.countP_singleton,
      accounts.any_sent_entry, accounts.subscription?_handle]
    cases accepted : (accounts.entry request).accepted? name with
    | some subscription =>
        have none := ((accounts.accepted?_entry_iff request name subscription).mp accepted).2.2.2
        simp [none] at counted ⊢
        omega
    | none =>
        cases held : accounts.subscription? name with
        | none => simpa [held] using counted
        | some subscription =>
            cases lowered : (accounts.entry request).lowers name subscription.threshold <;>
              simp [held, lowered, Option.filter_some] at counted ⊢ <;> omega

/-- A subscription is accepted when the threshold is at least 1, there is such a user, and
everything that was accepted for the user has fired. -/
theorem admits_iff (name : String) (threshold : Int64) :
    accounts.Admits name threshold ↔
      1 ≤ threshold ∧ (∃ user ∈ users, user.name = name) ∧
        ∀ start subscription, ¬ Stands log name subscription start := by
  have free : accounts.subscription? name = none ↔
      ∀ start subscription, ¬ Stands log name subscription start := by
    rw [Option.eq_none_iff_forall_ne_some]
    constructor
    · exact fun none start subscription stands =>
        none subscription ((follows.standing name subscription).mpr ⟨start, stands⟩)
    · intro none subscription held
      obtain ⟨start, stands⟩ := (follows.standing name subscription).mp held
      exact none start subscription stands
  rw [Accounts.Admits, follows.known, free]

end Follows

theorem follows_after (users : List User) (requests : List AccountsRequest) :
    Follows users ((Accounts.ofUsers users).history requests)
      ((Accounts.ofUsers users).after requests) := by
  induction requests using List.reverseRecOn with
  | nil => exact .ofUsers users
  | append_singleton earlier request inductionHypothesis =>
      rw [Accounts.history_append, Accounts.after_concat]
      exact inductionHypothesis.step request

/-! ## Whole histories -/

section Histories

variable (users : List User) (requests : List AccountsRequest)

theorem follows_take (moment : Nat) :
    Follows users (((Accounts.ofUsers users).history requests).take moment)
      ((Accounts.ofUsers users).after (requests.take moment)) := by
  rw [← Accounts.history_take]
  exact follows_after users _

variable {users requests} {position : Nat} {entry : Entry}
  (found : ((Accounts.ofUsers users).history requests)[position]? = some entry)
include found

theorem eq_entry_of_history :
    requests[position]? = some entry.request ∧
      entry = ((Accounts.ofUsers users).after (requests.take position)).entry entry.request := by
  rw [Accounts.getElem?_history, Option.map_eq_some_iff] at found
  obtain ⟨request, asked, rfl⟩ := found
  exact ⟨asked, rfl⟩

/-- An adjustment is answered with the balance that all adjustments so far leave. -/
theorem answer_of_adjust {user : String} {delta : Int64} (adjusts : entry.request = .adjust user delta) :
    entry.answer = .balance (((Accounts.ofUsers users).credits? user).map
      ((deltas user (requests.take (position + 1))).foldl saturatingSignedSum)) := by
  obtain ⟨asked, same⟩ := eq_entry_of_history found
  rw [adjusts] at asked same
  rw [same, Accounts.entry_adjust, Accounts.credits?_after, Option.map_map, List.take_add_one,
    asked, Option.toList_some, deltas_append]
  have last : deltas user [.adjust user delta] = [delta] := by simp [deltas]
  rw [last]
  dsimp only
  congr 2
  funext credits
  rw [List.foldl_append]
  rfl

/-- A subscription is accepted when the threshold is at least 1, there is such a user, and
everything that was accepted for the user has fired. -/
theorem subscribed_iff {user : String} {threshold : Int64} {handle : CallbackHandle}
    (subscribes : entry.request = .subscribe user threshold handle) :
    entry.answer = .subscribed ↔
      1 ≤ threshold ∧ (∃ known ∈ users, known.name = user) ∧
        ∀ start subscription, start < position →
          AcceptedAt ((Accounts.ofUsers users).history requests) user subscription start →
          ∃ finish, finish < position ∧
            Fires ((Accounts.ofUsers users).history requests) user subscription start finish := by
  obtain ⟨-, same⟩ := eq_entry_of_history found
  rw [subscribes] at same
  rw [same, Accounts.answer_subscribe_iff, (follows_take users requests position).admits_iff]
  refine and_congr_right fun _ => and_congr_right fun _ => ⟨?_, ?_⟩
  · intro free start subscription before accepted
    exact (fires_or_stands before accepted).resolve_right (free start subscription)
  · intro fired start subscription stands
    obtain ⟨before, accepted⟩ := exists_mem_getElem?_take.mp stands.accepted
    obtain ⟨finish, early, fires⟩ := fired start subscription before accepted
    exact not_stands_of_fires early fires stands

/-- A notification is sent when a subscription fires. -/
theorem sent_iff (notification : Notification) :
    entry.sent = some notification ↔
      ∃ start, Fires ((Accounts.ofUsers users).history requests) notification.user
        ⟨notification.handle, notification.threshold⟩ start position := by
  obtain ⟨-, same⟩ := eq_entry_of_history found
  rw [same, Accounts.sent_entry_iff, (follows_take users requests position).standing, ← same]
  simp only [fires_iff, LowersAt, found, Option.mem_some_iff, exists_eq_left', exists_and_right]

end Histories

/-- No two subscriptions fire at once, and none fires twice. -/
theorem Fires.start_eq_iff {users : List User} {requests : List AccountsRequest} {user : String}
    {subscription other : Subscription} {start begun finish ended : Nat}
    (fires : Fires ((Accounts.ofUsers users).history requests) user subscription start finish)
    (firesToo : Fires ((Accounts.ofUsers users).history requests) user other begun ended) :
    start = begun ↔ finish = ended := by
  constructor
  · rintro rfl
    exact fires.finish_eq firesToo
  · rintro rfl
    exact (follows_take users requests finish).single user subscription other start begun
      (fires_iff.mp fires).1 (fires_iff.mp firesToo).1

end ArithmeticCloud.Billing
