import ArithmeticCloud.Billing.AccountsRequest
import ArithmeticCloud.Billing.Directory
import ArithmeticCloud.Fleet.Liveness
import ArithmeticCloud.Fleet.Membership
import ArithmeticCloud.Fleet.RegistryRequest
import ArithmeticCloud.Service.Session
import ArithmeticCloud.Service.Statistics

/-!
Contract: the state of a running controller.

Owns:
- the registry and the accounts, each owned by an actor that can stop. A request
  to a stopped actor fails, a notice to it is lost;
- the answer to each query of a process, and the run of a whole process;
- the listings of nodes and users.

Does not own: the nodes themselves, of which it knows a link only.
-/

namespace ArithmeticCloud.Service

open Billing Fleet Network Transport Wire

/-- How a sub-operation reaches a node and its answer comes back, for nodes whose
state is `σ`. -/
structure Link (σ : Type) where
  compute : σ → Endpoint → Int64 → Operator → Int64 → Except Fault Reply × σ

structure Controller (σ : Type) where
  /-- The resource ceiling that is divided among the nodes. -/
  ceiling : UInt64
  registry : Registry
  /-- Whether the actor that owns the registry runs. -/
  registryRuns : Bool
  accounts : Accounts
  /-- Whether the actor that owns the accounts runs. -/
  accountsRun : Bool
  statistics : Statistics
  receivers : Directory
  nodes : σ

namespace Controller

variable {σ α : Type}

def start (ceiling : UInt64) (users : List User) (nodes : σ) : Controller σ :=
  ⟨ceiling, .empty, true, .ofUsers users, true, .empty, .empty, nodes⟩

/-! ## The two actors -/

def askRegistry (controller : Controller σ) (action : Registry → α × Registry) :
    Except Fault α × Controller σ :=
  if controller.registryRuns then
    let (answer, registry) := action controller.registry
    (.ok answer, { controller with registry := registry })
  else
    (.error (.actorGone "node-registry"), controller)

def tellRegistry (controller : Controller σ) (change : Registry → Registry) : Controller σ :=
  if controller.registryRuns then
    { controller with registry := change controller.registry }
  else
    controller

def askAccounts (controller : Controller σ) (action : Accounts → α × Accounts) :
    Except Fault α × Controller σ :=
  if controller.accountsRun then
    let (answer, accounts) := action controller.accounts
    (.ok answer, { controller with accounts := accounts })
  else
    (.error (.actorGone "accounts"), controller)

def tellAccounts (controller : Controller σ) (change : Accounts → Accounts) : Controller σ :=
  if controller.accountsRun then
    { controller with accounts := change controller.accounts }
  else
    controller

def stopRegistry (controller : Controller σ) : Controller σ :=
  { controller with registryRuns := false }

def stopAccounts (controller : Controller σ) : Controller σ :=
  { controller with accountsRun := false }

def stop (controller : Controller σ) : Controller σ := controller.stopRegistry.stopAccounts

/-! ## Requests -/

def deliver (controller : Controller σ) : Option Notification → Controller σ
  | none => controller
  | some notification =>
      let receivers := controller.receivers
      { controller with
        receivers := { receivers with notifier := (receivers.notifier.notify notification).2 } }

/-- Changes a balance and delivers the notification that this brings about. -/
def adjust (controller : Controller σ) (name : String) (delta : Int64) :
    Except Fault (Option Int64) × Controller σ :=
  if controller.accountsRun then
    let (balance, due, accounts) := controller.accounts.adjust name delta
    (.ok balance, { controller with accounts := accounts }.deliver due)
  else
    (.error (.actorGone "accounts"), controller)

/-- Makes a request to the registry; a notice to a stopped one is lost. -/
def requestRegistry (controller : Controller σ) (request : RegistryRequest) :
    Except Fault RegistryAnswer × Controller σ :=
  if request.isAnswered then
    controller.askRegistry (·.handle request)
  else
    (.ok .noted, controller.tellRegistry fun registry => (registry.handle request).2)

/-- Makes a request to the accounts and delivers the notification that it brings
about. -/
def requestAccounts (controller : Controller σ) (request : AccountsRequest) :
    Except Fault AccountsAnswer × Controller σ :=
  if controller.accountsRun then
    let (answer, due, accounts) := controller.accounts.handle request
    (.ok answer, { controller with accounts := accounts }.deliver due)
  else if request.isAnswered then
    (.error (.actorGone "accounts"), controller)
  else
    (.ok .noted, controller)

/-- Receives a datagram from an address at a time in milliseconds. A `hello` to a
stopped registry gets no answer. -/
def receiveDatagram (controller : Controller σ) (now : Int64) (source : Address)
    (bytes : Bytes) : Option Datagram × Controller σ :=
  match controller.askRegistry fun registry =>
      registry.handleDatagram controller.ceiling now source bytes with
  | (.ok reply, controller) => (reply, controller)
  | (.error _, controller) => (none, controller)

def answer (link : Link σ) (controller : Controller σ) :
    (query : Query) → Except Fault query.Answer × Controller σ
  | .login name password => controller.askAccounts fun accounts => accounts.login name password
  | .logout name => (.ok (), controller.tellAccounts (·.logout name))
  | .credits name => controller.askAccounts fun accounts => (accounts.credits? name, accounts)
  | .adjust name delta => controller.adjust name delta
  | .availableOperators =>
      controller.askRegistry fun registry => (registry.availableOperators, registry)
  | .pick operator => controller.askRegistry fun registry => (registry.pick? operator, registry)
  | .addUsage node amount => (.ok (), controller.tellRegistry (·.addUsage node amount))
  | .markOffline node => (.ok (), controller.tellRegistry (·.markOffline node))
  | .compute node left operator right =>
      let (reply, nodes) := link.compute controller.nodes node left operator right
      (.ok reply, { controller with nodes := nodes })
  | .count line => (.ok (), { controller with statistics := controller.statistics.record line })

/-- Runs a process with nothing in between. A query that fails ends it. -/
def run (link : Link σ) : Process α → Controller σ → Except Fault α × Controller σ
  | .done result, controller => (.ok result, controller)
  | .ask query next, controller =>
      match controller.answer link query with
      | (.ok found, controller) => run link (next found) controller
      | (.error fault, controller) => (.error fault, controller)

/-! ## Listings -/

/-- One numbered line for each entry, from 1, or a text that says there is none. -/
def listing (none : String) : List String → String
  | [] => none
  | entries => "\n".intercalate (entries.mapIdx fun index entry => s!"{index + 1}. {entry}")

def nodesText (records : List NodeRecord) : String :=
  listing "No nodes found" (records.map NodeRecord.text)

def usersText (accounts : List Account) : String :=
  listing "No users found" (accounts.map Account.text)

end Controller

end ArithmeticCloud.Service
