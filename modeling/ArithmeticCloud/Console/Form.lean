import ArithmeticCloud.Billing.Directory
import ArithmeticCloud.Node.History
import ArithmeticCloud.Node.Levels
import ArithmeticCloud.Service.Controller
import ArithmeticCloud.Wire.Form

/-!
Contract: the state of the cloud as documents.

Owns: the forms of records, levels, counts, notifications and of the answers of
the registry and the accounts.

Does not own: the settings, which have forms of their own, and faults.
-/

namespace ArithmeticCloud.Console

open Billing Fleet Network Node Service Wire

def ofLevels (levels : Levels) : Document :=
  .list [ofWord levels.committed, ofWord levels.proposed, ofWord levels.minimum]

/-- Records as their lines. -/
def ofRecords (records : List ComputeRecord) : Document :=
  .ofList (fun record => .ofCharacters record.text) records

def ofStatistics (statistics : Statistics) : Document :=
  .record [("text", .text statistics.text),
    ("sorted", .ofList (fun (operator, count) => .list [ofOperator operator, ofWord count])
      statistics.sorted)]

/-- The receiver, the user and the threshold of a notification. -/
def ofNotification (notification : Notification) : List Document :=
  [.text notification.handle.endpoint, .text notification.user,
    ofInteger notification.threshold]

def ofNodeRecord (record : NodeRecord) : Document :=
  .list [.text record.text, ofOperators record.operators, ofInteger record.lastSeen,
    ofEndpoint record.endpoint]

def ofRegistryAnswer : RegistryAnswer → Document
  | .noted => .null
  | .swept count => .ofNat count
  | .picked node => .ofOption ofEndpoint node
  | .snapshot snapshot =>
      .list [.text snapshot.toDatagram.encode, ofWord snapshot.proposedShare]
  | .availableOperators set => ofOperators set
  | .records records => .ofList ofNodeRecord records

def ofLoginOutcome : LoginOutcome → Document
  | .loggedIn => .text "LoggedIn"
  | .alreadyLoggedIn => .text "AlreadyLoggedIn"
  | .wrongCredentials => .text "WrongCredentials"

def ofRefusal (refusal : SubscribeRefusal) : Document :=
  let kind := match refusal with
    | .thresholdBelowOne => "ThresholdBelowOne"
    | .alreadySubscribed _ => "AlreadySubscribed"
    | .unknownUser _ => "UnknownUser"
  .record [("error", .text kind), ("message", .text refusal.message)]

def ofAccountsAnswer : AccountsAnswer → Document
  | .noted => .null
  | .login outcome => ofLoginOutcome outcome
  | .balance credits => .ofOption ofInteger credits
  | .subscribed => .text "subscribed"
  | .refused refusal => ofRefusal refusal
  | .users accounts => .ofList (fun account => .text account.text) accounts

def ofEvaluation (evaluation : Evaluation) : Document :=
  .list [.text evaluation.result.text, .ofNat evaluation.attempted]

end ArithmeticCloud.Console
