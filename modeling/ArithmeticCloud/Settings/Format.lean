import ArithmeticCloud.Document
import ArithmeticCloud.LogLevel
import ArithmeticCloud.Settings.Controller
import ArithmeticCloud.Settings.Node
import ArithmeticCloud.Wire.Form

/-!
Contract: settings as documents.

Owns: for each part of the settings its reading from a document and its form as
a document. A set of operators is read as it is listed, repetitions included. A
duration takes no entries but its two, and its nanoseconds carry into the
seconds. Changes to given settings are documents too.

Does not own: whether settings are valid.
-/

namespace ArithmeticCloud

open Billing Delivery Network Settings

namespace Document

/-! ## Words of the domain -/

def operator? : Document → Option Operator := choice? Operator.all Operator.title

def ofOperator (operator : Operator) : Document := .text operator.title

def operatorSet? (document : Document) : Option OperatorSet :=
  (document.list? operator?).map OperatorSet.mk

def ofOperatorSet (set : OperatorSet) : Document := .list (set.members.map ofOperator)

def logLevel? : Document → Option LogLevel := choice? LogLevel.all LogLevel.title

def ofLogLevel (level : LogLevel) : Document := .text level.title

def failureMode? : Document → Option FailureMode := choice? [.packet, .none] FailureMode.title

def ofFailureMode (mode : FailureMode) : Document := .text mode.title

/-! ## Time and places -/

def duration? (document : Document) : Option Duration :=
  match document with
  | .record entries =>
      if entries.all fun entry => entry.1 == "secs" || entry.1 == "nanos" then
        readParts document
      else
        none
  | _ => readParts document
where
  readParts (document : Document) : Option Duration :=
    match document.fields? ["secs", "nanos"] 0 with
    | some [some seconds, some nanoseconds] => do
        let seconds ← word64? seconds
        let nanoseconds ← word32? nanoseconds
        let duration := Duration.ofParts seconds.toNat nanoseconds.toNat
        if duration.seconds < UInt64.size then some duration else none
    | _ => none

def ofDuration (duration : Duration) : Document :=
  .record [("secs", ofNat duration.seconds), ("nanos", ofNat duration.fraction)]

def host? : Document → Option Host
  | .record [("DNS", .text name)] => some (.named name)
  | .record [("IP", .text address)] => (Address.parse? address.toList).map .at
  | _ => none

def ofHost : Host → Document
  | .named name => .record [("DNS", .text name)]
  | .at address => .record [("IP", .text (String.ofList address.text))]

def socket? (document : Document) : Option Socket :=
  match document.fields? ["host", "udp", "tcp"] 0 with
  | some [some host, some udp, some tcp] => do
      return ⟨← host? host, ← word16? udp, ← word16? tcp⟩
  | _ => none

def ofSocket (socket : Socket) : Document :=
  .record [("host", ofHost socket.host), ("udp", ofNat socket.udp.toNat),
    ("tcp", ofNat socket.tcp.toNat)]

/-! ## Failure injection -/

def delay? : Document → Option (Duration × Duration)
  | .list [first, second] => do return (← duration? first, ← duration? second)
  | _ => none

def ofDelay (delay : Duration × Duration) : Document :=
  .list [ofDuration delay.1, ofDuration delay.2]

def failureConfig? (document : Document) : Option FailureConfig :=
  match document.fields? ["drop_prob", "delay"] 0 with
  | some [some dropProbability, delay] => do
      return ⟨← decimal? dropProbability, ← optional? delay? delay⟩
  | _ => none

def ofFailureConfig (config : FailureConfig) : Document :=
  .record [("drop_prob", .decimal config.dropProbability),
    ("delay", ofOption ofDelay config.delay)]

def nodeWide? : Document → Option (List (Endpoint × FailureConfig))
  | .record entries => entries.mapM fun (destination, config) => do
      return (← Endpoint.parse? destination.toList, ← failureConfig? config)
  | _ => none

/-- One entry for each destination. -/
def ofNodeWide (failures : FailureMap) : Document :=
  .record (((failures.nodeWide.map Prod.fst).eraseDups).map fun destination =>
    (String.ofList destination.text, ofFailureConfig (failures.get destination)))

def failureMap? (document : Document) : Option FailureMap :=
  match document.fields? ["cluster_wide", "node_wide"] 0 with
  | some [some clusterWide, some nodeWide] => do
      return ⟨← failureConfig? clusterWide, ← nodeWide? nodeWide⟩
  | _ => none

def ofFailureMap (failures : FailureMap) : Document :=
  .record [("cluster_wide", ofFailureConfig failures.clusterWide),
    ("node_wide", ofNodeWide failures)]

/-! ## Users and callbacks -/

def user? (document : Document) : Option User :=
  match document.fields? ["name", "password", "credits"] 0 with
  | some [some name, some password, some credits] => do
      return ⟨← text? name, ← text? password, ← int64? credits⟩
  | _ => none

def ofUser (user : User) : Document :=
  .record [("name", .text user.name), ("password", .text user.password),
    ("credits", .integer user.credits.toInt)]

def callbackHandle? (document : Document) : Option CallbackHandle :=
  match document.fields? ["id", "endpoint"] 0 with
  | some [some id, some endpoint] => do return ⟨← word64? id, ← text? endpoint⟩
  | _ => none

def ofCallbackHandle (handle : CallbackHandle) : Document :=
  .record [("id", ofNat handle.id.toNat), ("endpoint", .text handle.endpoint)]

/-! ## Whole settings -/

def controllerSettings? (document : Document) : Option ControllerSettings :=
  match document.fields?
      ["socket", "rmax", "node_timeout", "check_period", "max_sessions", "users"] 0 with
  | some [some socket, some ceiling, some nodeTimeout, some checkPeriod, some maxSessions,
      some users] => do
      return ⟨← socket? socket, ← word64? ceiling, ← duration? nodeTimeout,
        ← duration? checkPeriod, ← word64? maxSessions, ← list? user? users⟩
  | _ => none

def ofControllerSettings (settings : ControllerSettings) : Document :=
  .record [("socket", ofSocket settings.socket), ("rmax", ofNat settings.ceiling.toNat),
    ("node_timeout", ofDuration settings.nodeTimeout),
    ("check_period", ofDuration settings.checkPeriod),
    ("max_sessions", ofNat settings.maxSessions.toNat),
    ("users", .list (settings.users.map ofUser))]

def nodeSettings? (document : Document) : Option NodeSettings :=
  match document.fields?
      ["socket", "controller", "operators", "rmin", "alive_period", "hello_retry",
        "share_timeout", "history_capacity", "failure_mode", "fail_map"] 2 with
  | some [some socket, some controller, some operators, some minimum, some alivePeriod,
      some helloRetry, shareTimeout, some historyCapacity, failureMode, failureMap] => do
      return ⟨← socket? socket, ← socket? controller, ← operatorSet? operators,
        ← word64? minimum, ← duration? alivePeriod, ← duration? helloRetry,
        ← optional? duration? shareTimeout, ← word64? historyCapacity,
        ← orElse? failureMode? .none failureMode, ← orElse? failureMap? .reliable failureMap⟩
  | _ => none

def ofNodeSettings (settings : NodeSettings) : Document :=
  .record [("socket", ofSocket settings.socket), ("controller", ofSocket settings.controller),
    ("operators", ofOperatorSet settings.operators), ("rmin", ofNat settings.minimum.toNat),
    ("alive_period", ofDuration settings.alivePeriod),
    ("hello_retry", ofDuration settings.helloRetry),
    ("share_timeout", ofOption ofDuration settings.shareTimeout),
    ("history_capacity", ofNat settings.historyCapacity.toNat),
    ("failure_mode", ofFailureMode settings.failureMode),
    ("fail_map", ofFailureMap settings.failureMap)]

/-! ## Changes to settings -/

/-- Settings with some entries replaced. Durations are in milliseconds. -/
def controllerChanges? (document : Document) (settings : ControllerSettings) :
    Option ControllerSettings := do
  return { settings with
    ceiling := ← document.getOr "rmax" word64? settings.ceiling
    nodeTimeout := ← document.getOr "node_timeout" milliseconds? settings.nodeTimeout
    checkPeriod := ← document.getOr "check_period" milliseconds? settings.checkPeriod
    maxSessions := ← document.getOr "max_sessions" word64? settings.maxSessions
    users := ← document.getOr "users" (list? user?) settings.users }

/-- Null takes the time limit away, where a missing entry keeps it. -/
def shareTimeoutChange? (document : Document) (limit : Option Duration) :
    Option (Option Duration) :=
  match document with
  | .record entries =>
      match entries.lookup "share_timeout" with
      | none => some limit
      | found => optional? milliseconds? found
  | _ => none

/-- Settings with some entries replaced. Durations are in milliseconds, and
operators are symbols. -/
def nodeChanges? (document : Document) (settings : NodeSettings) : Option NodeSettings := do
  return { settings with
    operators := ← document.getOr "operators" Wire.operatorsOf? settings.operators
    minimum := ← document.getOr "rmin" word64? settings.minimum
    alivePeriod := ← document.getOr "alive_period" milliseconds? settings.alivePeriod
    helloRetry := ← document.getOr "hello_retry" milliseconds? settings.helloRetry
    shareTimeout := ← shareTimeoutChange? document settings.shareTimeout
    historyCapacity := ← document.getOr "history_capacity" word64? settings.historyCapacity }

end Document

end ArithmeticCloud
