import ArithmeticCloud.Console.Form

/-!
Contract: what whoever runs a controller can have it do.

Owns: the instructions, their reading from documents, in which the word under
`do` names the instruction, and what each is answered with.

Does not own: the sessions of clients.
-/

namespace ArithmeticCloud.Console

open Billing Document Fleet Service Wire

inductive Instruction where
  | registry (request : RegistryRequest)
  | accounts (request : AccountsRequest)
  /-- Subscribes the receiver of a name, which is registered if it is new. -/
  | subscribe (user : String) (threshold : Int64) (receiver : String)
  | unregister (receiver : String)
  | compute (user : String) (expression : Expression)
  | evaluate (expression : Expression)
  | statistics
  | stopRegistry
  | stopAccounts
deriving DecidableEq, Repr

namespace Instruction

def registryOf? (name : String) (document : Document) : Option RegistryRequest := do
  match name with
  | "upsert" =>
      return .upsert (← document.get "addr" addressOf?) (← document.get "tcp" word16?)
        (← document.get "operators" operatorsOf?) (← document.get "now" int64?)
  | "offline" => return .markOffline (← document.get "node" endpointOf?)
  | "usage" =>
      return .addUsage (← document.get "node" endpointOf?) (← document.get "amount" word64?)
  | "sweep" => return .sweep (← document.get "now" int64?) (← document.get "timeout" int64?)
  | "pick" => return .pick (← document.get "operator" operatorOf?)
  | "snapshot" => return .snapshot (← document.get "rmax" word64?)
  | "operators" => return .availableOperators
  | "records" => return .records
  | _ => none

def accountsOf? (name : String) (document : Document) : Option AccountsRequest := do
  match name with
  | "login" => return .login (← document.get "user" text?) (← document.get "password" text?)
  | "logout" => return .logout (← document.get "user" text?)
  | "credits" => return .credits (← document.get "user" text?)
  | "adjust" => return .adjust (← document.get "user" text?) (← document.get "delta" int64?)
  | "users" => return .users
  | _ => none

def expressionOf? (document : Document) : Option Expression :=
  document.characters?.bind Expression.parse?

def serviceOf? (name : String) (document : Document) : Option Instruction := do
  match name with
  | "subscribe" =>
      return .subscribe (← document.get "user" text?) (← document.get "threshold" int64?)
        (← document.get "endpoint" text?)
  | "unregister" => return .unregister (← document.get "endpoint" text?)
  | "compute" =>
      return .compute (← document.get "user" text?) (← document.get "expr" expressionOf?)
  | "evaluate" => return .evaluate (← document.get "expr" expressionOf?)
  | "stats" => return .statistics
  | "stop_registry" => return .stopRegistry
  | "stop_accounts" => return .stopAccounts
  | _ => none

def ofDocument? (document : Document) : Option Instruction := do
  let name ← document.get "do" text?
  ((registryOf? name document).map .registry).or <|
    ((accountsOf? name document).map .accounts).or <| serviceOf? name document

/-- Carries out an instruction. -/
def perform {σ : Type} (link : Link σ) (controller : Controller σ) :
    Instruction → Except Fault Document × Controller σ
  | .registry request =>
      let (answer, controller) := controller.requestRegistry request
      (answer.map ofRegistryAnswer, controller)
  | .accounts request =>
      let (answer, controller) := controller.requestAccounts request
      (answer.map ofAccountsAnswer, controller)
  | .subscribe user threshold receiver =>
      let (registration, receivers) := controller.receivers.obtain receiver
      let (answer, controller) := { controller with receivers := receivers }.requestAccounts
        (.subscribe user threshold registration.handle)
      (answer.map ofAccountsAnswer, controller)
  | .unregister receiver =>
      let (removed, receivers) := controller.receivers.unregister receiver
      (.ok (.bool removed), { controller with receivers := receivers })
  | .compute user expression =>
      let (outcome, controller) := controller.run link (computeFor user expression)
      (outcome.map fun outcome => .text outcome.text, controller)
  | .evaluate expression =>
      let (evaluation, controller) := controller.run link (Service.evaluate expression)
      (evaluation.map ofEvaluation, controller)
  | .statistics => (.ok (ofStatistics controller.statistics), controller)
  | .stopRegistry => (.ok .null, controller.stopRegistry)
  | .stopAccounts => (.ok .null, controller.stopAccounts)

end Instruction

end ArithmeticCloud.Console
