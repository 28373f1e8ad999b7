import ArithmeticCloud.Fleet.Logs
import ArithmeticCloud.Joining.Agent
import ArithmeticCloud.Service.Controller
import ArithmeticCloud.Settings.Controller
import ArithmeticCloud.Settings.Node
import ArithmeticCloud.Text.Columns

/-!
Contract: the two commands, `controller` and `node`.

Owns: their arguments, the usage texts, and what they print.

Does not own: exit codes and sockets.
-/

namespace ArithmeticCloud.CommandLine

open Billing Fleet Joining Network Node Service Settings Text

/-! ## The controller -/

def controllerUsage : String :=
  "usage: controller <host> <udp-port> <tcp-port> <rmax> " ++
    "[<timeout-ms> <check-period-ms>] [--user <name>:<password>:<credits>]..."

/-- Reads `name:password:credits`; the name and the password hold no colon. -/
def parseUser? (argument : String) : Option User :=
  match columns ':' 2 argument.toList with
  | [name, password, credits] =>
      (int64? credits).map fun credits =>
        ⟨String.ofList name, String.ofList password, credits⟩
  | _ => none

/-- Takes the users out of the arguments, wherever they stand. -/
def splitUsers? : List String → Option (List String × List User)
  | [] => some ([], [])
  | ["--user"] => none
  | "--user" :: argument :: others => do
      let user ← parseUser? argument
      let (positional, users) ← splitUsers? others
      return (positional, user :: users)
  | argument :: others => do
      let (positional, users) ← splitUsers? others
      return (argument :: positional, users)

def milliseconds? (argument : String) : Option Duration :=
  (word64? argument.toList).map fun count => .ofMilliseconds count.toNat

def controllerSettings? (processors : Nat) (arguments : List String) :
    Option ControllerSettings := do
  let (positional, users) ← splitUsers? arguments
  match positional with
  | host :: udp :: tcp :: ceiling :: rest =>
      let socket : Socket := ⟨.ofText host, ← word16? udp.toList, ← word16? tcp.toList⟩
      let settings := { ControllerSettings.standard processors with
        socket := socket
        ceiling := ← word64? ceiling.toList
        users := users }
      match rest with
      | [] => return settings
      | [timeout, period] => return { settings with
          nodeTimeout := ← milliseconds? timeout
          checkPeriod := ← milliseconds? period }
      | _ => none
  | _ => none

def controllerGreeting (udp tcp : String) : String :=
  s!"controller listening on udp {udp} and tcp {tcp}"

/-- What the controller prints before it stops. -/
def controllerReport {σ : Type} (controller : Controller σ) (logs : List NodeLog) :
    List String :=
  [Controller.nodesText controller.registry.records,
    Controller.usersText controller.accounts.accounts, controller.statistics.text] ++
    if logs.isEmpty then ["No logs found"] else logs.map fun log => String.ofList log.text

/-! ## The node -/

def nodeUsage : String :=
  "usage: node <controller-host> <controller-udp-port> <tcp-port> <operators> " ++
    "<rmin> [<alive-period-ms> [<share-timeout-ms>|none]]"

def limit? (argument : String) : Option (Option Duration) :=
  if argument == "none" then some none else (milliseconds? argument).map some

def nodeSettings? (arguments : List String) : Option NodeSettings :=
  match arguments with
  | host :: udp :: tcp :: operators :: minimum :: rest => do
      let standard := NodeSettings.standard
      let settings := { standard with
        controller := ⟨.ofText host, ← word16? udp.toList, 0⟩
        socket := { standard.socket with tcp := ← word16? tcp.toList }
        operators := ← OperatorSet.parse? operators.toList
        minimum := ← word64? minimum.toList }
      match rest with
      | [] => return settings
      | [period] => return { settings with alivePeriod := ← milliseconds? period }
      | [period, limit] => return { settings with
          alivePeriod := ← milliseconds? period
          shareTimeout := ← limit? limit }
      | _ => none
  | _ => none

def nodeGreeting (endpoint : String) : String := s!"node listening on {endpoint}"

def joinText : JoinState → String
  | .joined share => s!"joined the cloud with {share.toNat} resources"
  | _ => "Can't join cloud!"

/-- What the node prints before it stops: its last records and its share. -/
def nodeReport (server : Server) : List String :=
  ((server.history.latest 10).map fun record => String.ofList record.text) ++
    [s!"resources: {server.levels.committed.toNat}"]

/-! ## Starting -/

/-- What comes of the arguments of a command. -/
inductive Startup (α : Type) where
  | misused
  | refused (fault : Fault)
  | ready (settings : α)

def Startup.of {α : Type} (violations : α → List Violation) : Option α → Startup α
  | none => .misused
  | some settings =>
      match violations settings with
      | [] => .ready settings
      | problems => .refused (refusal problems)

def startController (processors : Nat) (arguments : List String) : Startup ControllerSettings :=
  .of ControllerSettings.violations (controllerSettings? processors arguments)

def startNode (arguments : List String) : Startup NodeSettings :=
  .of NodeSettings.violations (nodeSettings? arguments)

/-- What is printed when a command cannot run. -/
def failureText (command : String) (fault : Fault) : String :=
  s!"{command} failed: " ++ fault.message

end ArithmeticCloud.CommandLine
