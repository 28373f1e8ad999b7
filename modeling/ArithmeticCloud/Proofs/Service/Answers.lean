import ArithmeticCloud.Proofs.Billing.Accounts
import ArithmeticCloud.Proofs.Service.Processes
import ArithmeticCloud.Service.Controller

/-!
Contract: what a query does to the accounts of a controller.

Owns: the answer to each query that concerns an account, from running accounts and
from stopped ones, and the frame: other queries, notices to the registry and the
delivery of notifications leave the accounts alone, and questions change nothing.

Does not own: the registry, the statistics and the nodes.
-/

namespace ArithmeticCloud.Service

open Billing Fleet Network

namespace Controller

variable {σ : Type} (link : Link σ) (controller : Controller σ)

/-! ## Parts of the controller that a step leaves alone -/

@[simp] theorem accounts_deliver (due : Option Notification) :
    (controller.deliver due).accounts = controller.accounts := by
  cases due <;> rfl

@[simp] theorem accountsRun_deliver (due : Option Notification) :
    (controller.deliver due).accountsRun = controller.accountsRun := by
  cases due <;> rfl

@[simp] theorem accounts_tellRegistry (change : Registry → Registry) :
    (controller.tellRegistry change).accounts = controller.accounts := by
  unfold tellRegistry
  split <;> rfl

@[simp] theorem accountsRun_tellRegistry (change : Registry → Registry) :
    (controller.tellRegistry change).accountsRun = controller.accountsRun := by
  unfold tellRegistry
  split <;> rfl

@[simp] theorem accounts_askRegistry {α : Type} (action : Registry → α × Registry) :
    (controller.askRegistry action).2.accounts = controller.accounts := by
  unfold askRegistry
  split <;> rfl

@[simp] theorem accountsRun_askRegistry {α : Type} (action : Registry → α × Registry) :
    (controller.askRegistry action).2.accountsRun = controller.accountsRun := by
  unfold askRegistry
  split <;> rfl

@[simp] theorem accounts_requestRegistry (request : RegistryRequest) :
    (controller.requestRegistry request).2.accounts = controller.accounts := by
  unfold requestRegistry
  split <;> simp

@[simp] theorem accountsRun_requestRegistry (request : RegistryRequest) :
    (controller.requestRegistry request).2.accountsRun = controller.accountsRun := by
  unfold requestRegistry
  split <;> simp

@[simp] theorem registryRuns_deliver (due : Option Notification) :
    (controller.deliver due).registryRuns = controller.registryRuns := by
  cases due <;> rfl

@[simp] theorem registryRuns_tellRegistry (change : Registry → Registry) :
    (controller.tellRegistry change).registryRuns = controller.registryRuns := by
  unfold tellRegistry
  split <;> rfl

@[simp] theorem registryRuns_askRegistry {α : Type} (action : Registry → α × Registry) :
    (controller.askRegistry action).2.registryRuns = controller.registryRuns := by
  unfold askRegistry
  split <;> rfl

@[simp] theorem registryRuns_requestRegistry (request : RegistryRequest) :
    (controller.requestRegistry request).2.registryRuns = controller.registryRuns := by
  unfold requestRegistry
  split <;> simp

/-- A question changes nothing. -/
theorem snd_askAccounts {α : Type} {action : Accounts → α × Accounts}
    (asks : (action controller.accounts).2 = controller.accounts) :
    (controller.askAccounts action).2 = controller := by
  unfold askAccounts
  split
  · show { controller with accounts := (action controller.accounts).2 } = controller
    rw [asks]
  · rfl

theorem snd_askRegistry {α : Type} {action : Registry → α × Registry}
    (asks : (action controller.registry).2 = controller.registry) :
    (controller.askRegistry action).2 = controller := by
  unfold askRegistry
  split
  · show { controller with registry := (action controller.registry).2 } = controller
    rw [asks]
  · rfl

/-! ## Queries to stopped accounts -/

section Stopped

variable (stopped : ¬ controller.accountsRun = true)
include stopped

theorem answer_login_stopped (name password : String) :
    controller.answer link (.login name password) =
      (.error (.actorGone "accounts"), controller) := by
  simp only [answer, askAccounts, if_neg stopped]

theorem answer_credits_stopped (name : String) :
    controller.answer link (.credits name) = (.error (.actorGone "accounts"), controller) := by
  simp only [answer, askAccounts, if_neg stopped]

end Stopped

/-! ## Queries to running accounts -/

section Running

variable (running : controller.accountsRun = true)
include running

theorem tellAccounts_running (change : Accounts → Accounts) :
    controller.tellAccounts change =
      { controller with accounts := change controller.accounts } := by
  unfold tellAccounts
  rw [if_pos running]

theorem answer_login (name password : String) :
    controller.answer link (.login name password) =
      (.ok (controller.accounts.login name password).1,
        { controller with accounts := (controller.accounts.login name password).2 }) := by
  simp only [answer, askAccounts, if_pos running]

theorem answer_credits (name : String) :
    controller.answer link (.credits name) =
      (.ok (controller.accounts.credits? name), controller) := by
  simp only [answer, askAccounts, if_pos running]

theorem answer_adjust (name : String) (delta : Int64) :
    controller.answer link (.adjust name delta) =
      (.ok (controller.accounts.adjust name delta).1,
        { controller with accounts := (controller.accounts.adjust name delta).2.2 }.deliver
          (controller.accounts.adjust name delta).2.1) := by
  simp only [answer, adjust, if_pos running]

/-- Only logins and logouts change who is online. -/
theorem isOnline_answer {query : Query} (neutral : query.IsNeutral) (user : String) :
    (controller.answer link query).2.accounts.isOnline user =
      controller.accounts.isOnline user := by
  cases query with
  | login name password => exact neutral.elim
  | logout name => exact neutral.elim
  | credits name => rw [answer_credits link controller running]
  | adjust name delta => simp [answer_adjust link controller running]
  | availableOperators => simp [answer]
  | pick operator => simp [answer]
  | addUsage node amount => simp [answer]
  | markOffline node => simp [answer]
  | compute node left operator right => rfl
  | count line => rfl

theorem accountsRun_answer (query : Query) :
    (controller.answer link query).2.accountsRun = true := by
  cases query with
  | login name password => rw [answer_login link controller running]; exact running
  | logout name =>
      change (controller.tellAccounts (·.logout name)).accountsRun = true
      rw [tellAccounts_running controller running]
      exact running
  | credits name => rw [answer_credits link controller running]; exact running
  | adjust name delta => simpa [answer_adjust link controller running] using running
  | availableOperators => simpa [answer] using running
  | pick operator => simpa [answer] using running
  | addUsage node amount => simpa [answer] using running
  | markOffline node => simpa [answer] using running
  | compute node left operator right => exact running
  | count line => exact running

/-- Only a change of a balance changes balances. -/
theorem credits?_answer {query : Query} (other : ∀ name delta, query ≠ .adjust name delta)
    (user : String) :
    (controller.answer link query).2.accounts.credits? user =
      controller.accounts.credits? user := by
  cases query with
  | login name password => simp [answer_login link controller running]
  | logout name =>
      change (controller.tellAccounts (·.logout name)).accounts.credits? user = _
      rw [tellAccounts_running controller running]
      exact Accounts.credits?_logout _ name user
  | credits name => rw [answer_credits link controller running]
  | adjust name delta => exact absurd rfl (other name delta)
  | availableOperators => simp [answer]
  | pick operator => simp [answer]
  | addUsage node amount => simp [answer]
  | markOffline node => simp [answer]
  | compute node left operator right => rfl
  | count line => rfl

theorem registryRuns_answer (query : Query) :
    (controller.answer link query).2.registryRuns = controller.registryRuns := by
  cases query with
  | login name password => rw [answer_login link controller running]
  | logout name =>
      change (controller.tellAccounts (·.logout name)).registryRuns = _
      rw [tellAccounts_running controller running]
  | credits name => rw [answer_credits link controller running]
  | adjust name delta => simp [answer_adjust link controller running]
  | availableOperators => simp [answer]
  | pick operator => simp [answer]
  | addUsage node amount => simp [answer]
  | markOffline node => simp [answer]
  | compute node left operator right => rfl
  | count line => rfl

/-- While both actors run, every query has an answer. -/
theorem answer_ok (registryRuns : controller.registryRuns = true) (query : Query) :
    ∃ found, (controller.answer link query).1 = .ok found := by
  cases query with
  | login name password => exact ⟨_, by rw [answer_login link controller running]⟩
  | logout name => exact ⟨(), rfl⟩
  | credits name => exact ⟨_, by rw [answer_credits link controller running]⟩
  | adjust name delta => exact ⟨_, by rw [answer_adjust link controller running]⟩
  | availableOperators =>
      exact ⟨controller.registry.availableOperators, by simp [answer, askRegistry, registryRuns]⟩
  | pick operator =>
      exact ⟨controller.registry.pick? operator, by simp [answer, askRegistry, registryRuns]⟩
  | addUsage node amount => exact ⟨(), rfl⟩
  | markOffline node => exact ⟨(), rfl⟩
  | compute node left operator right => exact ⟨_, rfl⟩
  | count line => exact ⟨(), rfl⟩

end Running

end Controller

end ArithmeticCloud.Service
