import ArithmeticCloud.Proofs.Billing.Subscriptions
import ArithmeticCloud.Service.Controller

/-!
Contract: subscriptions to the users of a controller, whatever becomes of notifications.

Owns:
- requests to the accounts while receivers come and go, and that neither answers nor
  notifications depend on the receivers;
- which subscriptions are accepted, and that each one fires once, when the balance of its
  user is first left below its threshold.

Does not own: accounts that have been stopped.
-/

namespace ArithmeticCloud.Service

open Billing

variable {σ : Type}

/-! ## Requests while receivers come and go -/

/-- Receivers after a notification is delivered to them, if they still take it. -/
def handOver (receivers : Directory) : Option Notification → Directory
  | none => receivers
  | some notification =>
      { receivers with notifier := (receivers.notifier.notify notification).2 }

theorem deliver_eq (controller : Controller σ) (due : Option Notification) :
    controller.deliver due =
      { controller with receivers := handOver controller.receivers due } := by
  cases due <;> rfl

/-- Makes requests, with any receivers in place for each of them. Gives the answers, each
with the receivers after it. -/
def requestAll (controller : Controller σ) :
    List (Directory × AccountsRequest) →
      List (Except Fault AccountsAnswer × Directory) × Controller σ
  | [] => ([], controller)
  | (receivers, request) :: later =>
      let (answer, after) := { controller with receivers := receivers }.requestAccounts request
      let (answers, last) := requestAll after later
      ((answer, after.receivers) :: answers, last)

/-- What comes of a request that is made with some receivers in place. -/
def outcome (turn : Directory × AccountsRequest) (entry : Entry) :
    Except Fault AccountsAnswer × Directory :=
  (.ok entry.answer, handOver turn.1 entry.sent)

theorem requestAll_eq (controller : Controller σ) (runs : controller.accountsRun = true)
    (turns : List (Directory × AccountsRequest)) :
    (requestAll controller turns).1 =
        turns.zipWith outcome (controller.accounts.history (turns.map Prod.snd)) ∧
      (requestAll controller turns).2.accounts =
        controller.accounts.after (turns.map Prod.snd) := by
  induction turns generalizing controller with
  | nil => exact ⟨rfl, rfl⟩
  | cons turn later inductionHypothesis =>
      rcases turn with ⟨receivers, request⟩
      have requested : { controller with receivers := receivers }.requestAccounts request =
          (.ok (controller.accounts.handle request).1, { controller with
            accounts := (controller.accounts.handle request).2.2
            receivers := handOver receivers (controller.accounts.handle request).2.1 }) := by
        unfold Controller.requestAccounts
        rw [if_pos runs]
        dsimp only
        rw [deliver_eq]
      obtain ⟨answers, accounts⟩ := inductionHypothesis { controller with
        accounts := (controller.accounts.handle request).2.2
        receivers := handOver receivers (controller.accounts.handle request).2.1 } runs
      rw [requestAll, requested]
      dsimp only
      rw [answers, accounts]
      exact ⟨rfl, rfl⟩

/-! ## One notification for each subscription -/

/-- For any users, requests and receivers. The answers, and the notifications that are handed
over, are those of a history that the receivers have no part in. In it:
- an adjustment is answered with the saturated balance;
- a subscription is accepted exactly when the threshold is at least 1, there is such a user,
  and every subscription that was accepted for the user has fired;
- a notification is sent exactly when a subscription fires, and is that subscription's own;
- no two subscriptions fire at once, and none fires twice;
- at every moment the subscriptions that were accepted for a user are those that have been
  notified and the one that stands, if there is one. -/
theorem subscriptions_fire_once (ceiling : UInt64) (users : List User) (nodes : σ)
    (turns : List (Directory × AccountsRequest)) :
    let requests := turns.map Prod.snd
    let log := (Accounts.ofUsers users).history requests
    log.map Entry.request = requests ∧
    (requestAll (.start ceiling users nodes) turns).1 = turns.zipWith outcome log ∧
    (∀ (position : Nat) (entry : Entry) (user : String) (delta : Int64),
      log[position]? = some entry → entry.request = .adjust user delta →
      entry.answer = .balance (((Accounts.ofUsers users).credits? user).map
        ((deltas user (requests.take (position + 1))).foldl saturatingSignedSum))) ∧
    (∀ (position : Nat) (entry : Entry) (user : String) (threshold : Int64)
        (handle : CallbackHandle),
      log[position]? = some entry → entry.request = .subscribe user threshold handle →
      (entry.answer = .subscribed ↔
        1 ≤ threshold ∧ (∃ known ∈ users, known.name = user) ∧
          ∀ start subscription, start < position → AcceptedAt log user subscription start →
            ∃ finish, finish < position ∧ Fires log user subscription start finish)) ∧
    (∀ (position : Nat) (entry : Entry) (notification : Notification),
      log[position]? = some entry →
      (entry.sent = some notification ↔
        ∃ start, Fires log notification.user ⟨notification.handle, notification.threshold⟩
          start position)) ∧
    (∀ user subscription other start begun finish ended,
      Fires log user subscription start finish → Fires log user other begun ended →
      (start = begun ↔ finish = ended)) ∧
    ∀ moment user,
      let held := ((Accounts.ofUsers users).after (requests.take moment)).subscription? user
      acceptances (log.take moment) user =
          notices (log.take moment) user + (if held.isSome then 1 else 0) ∧
        ∀ subscription, held = some subscription ↔
          ∃ start, Stands (log.take moment) user subscription start := by
  intro requests log
  refine ⟨Accounts.map_request_history _ _, (requestAll_eq _ rfl turns).1, ?_, ?_, ?_, ?_, ?_⟩
  · exact fun position entry user delta found adjusts => answer_of_adjust found adjusts
  · exact fun position entry user threshold handle found subscribes =>
      subscribed_iff found subscribes
  · exact fun position entry notification found => sent_iff found notification
  · exact fun user subscription other start begun finish ended fires firesToo =>
      fires.start_eq_iff firesToo
  · intro moment user
    have follows := follows_take users requests moment
    exact ⟨follows.counted user, follows.standing user⟩

/-! ### Two subscriptions of one user -/

def admin : CallbackHandle := ⟨7, "admin"⟩

/-- The requests of a user who falls below two thresholds, with nobody to be told. -/
def fallingTwice : List (Directory × AccountsRequest) :=
  [.subscribe "alice" 50 admin, .subscribe "alice" 10 admin, .adjust "alice" (-5),
    .adjust "alice" (-20), .adjust "alice" (-20), .subscribe "alice" 10 admin].map
    (Directory.empty, ·)

theorem subscriptions_fire_once_fallingTwice :
    let log := (Accounts.ofUsers [⟨"alice", "12345", 60⟩]).history (fallingTwice.map Prod.snd)
    log.map Entry.answer = [.subscribed, .refused (.alreadySubscribed "alice"),
        .balance (some 55), .balance (some 35), .balance (some 15), .subscribed] ∧
      AccountsAnswer.balance (some 35) =
        .balance (((Accounts.ofUsers [⟨"alice", "12345", 60⟩]).credits? "alice").map
          (([-5, -20] : List Int64).foldl saturatingSignedSum)) ∧
      ∃ start finish, Fires log "alice" ⟨admin, 50⟩ start 3 ∧
        Fires log "alice" ⟨admin, 50⟩ 0 finish ∧ finish < 5 ∧ (start = 0 ↔ 3 = finish) := by
  intro log
  obtain ⟨-, -, balances, subscribed, sent, once, -⟩ :=
    subscriptions_fire_once 1000 [⟨"alice", "12345", 60⟩] () fallingTwice
  have third : log[3]? = some ⟨.adjust "alice" (-20),
      .balance (some 35), some ⟨admin, "alice", 50⟩⟩ := by decide +kernel
  have fifth : log[5]? = some ⟨.subscribe "alice" 10 admin, .subscribed, none⟩ := by
    decide +kernel
  obtain ⟨start, fires⟩ := (sent 3 _ ⟨admin, "alice", 50⟩ third).mp rfl
  have accepted : AcceptedAt log "alice" ⟨admin, 50⟩ 0 :=
    ⟨_, rfl, by decide +kernel⟩
  obtain ⟨finish, early, firesToo⟩ :=
    ((subscribed 5 _ "alice" 10 admin fifth rfl).mp rfl).2.2 0 ⟨admin, 50⟩ (by decide) accepted
  have amounts : deltas "alice" ((fallingTwice.map Prod.snd).take 4) = [-5, -20] := by
    decide +kernel
  have answered := balances 3 _ "alice" (-20) third rfl
  rw [amounts] at answered
  refine ⟨?_, answered, start, finish, fires, firesToo, early,
    once _ _ _ _ _ _ _ fires firesToo⟩
  decide +kernel

end ArithmeticCloud.Service
