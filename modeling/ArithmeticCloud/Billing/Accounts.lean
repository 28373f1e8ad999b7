import ArithmeticCloud.Arithmetic.Saturation
import ArithmeticCloud.Text.Numeral

/-!
Contract: the accounts of the users.

Owns:
- one account per name, in the order of the settings;
- being online, which at most one login at a time achieves;
- balances, which saturate at the bounds of a signed 64-bit word;
- subscriptions, at most one per user, each of which fires once, at the first
  change that leaves the balance below its threshold.

Does not own: sessions, and the delivery of notifications.
-/

namespace ArithmeticCloud.Billing

structure User where
  name : String
  password : String
  credits : Int64
deriving DecidableEq, Repr

/-- Where a notification goes: a number that identifies the receiver, and a
description of it. -/
structure CallbackHandle where
  id : UInt64
  endpoint : String
deriving DecidableEq, Repr

structure Subscription where
  handle : CallbackHandle
  threshold : Int64
deriving DecidableEq, Repr

/-- The balance of a user has fallen below a threshold. -/
structure Notification where
  handle : CallbackHandle
  user : String
  threshold : Int64
deriving DecidableEq, Repr

structure Account where
  name : String
  password : String
  credits : Int64
  online : Bool
  subscription : Option Subscription
deriving DecidableEq, Repr

inductive LoginOutcome where
  | loggedIn
  | alreadyLoggedIn
  | wrongCredentials
deriving DecidableEq, Repr

def LoginOutcome.message : LoginOutcome → String
  | .loggedIn => "Successfully logged in."
  | .alreadyLoggedIn => "You are already logged in!"
  | .wrongCredentials => "Wrong username or password."

inductive SubscribeRefusal where
  | thresholdBelowOne
  | alreadySubscribed (user : String)
  | unknownUser (user : String)
deriving DecidableEq, Repr

def SubscribeRefusal.message : SubscribeRefusal → String
  | .thresholdBelowOne => "the threshold must be at least 1"
  | .alreadySubscribed user => s!"user {user} already has an active subscription"
  | .unknownUser user => s!"no user named {user}"

namespace Account

def ofUser (user : User) : Account := ⟨user.name, user.password, user.credits, false, none⟩

def text (account : Account) : String :=
  let status := if account.online then "online" else "offline"
  s!"{account.name} {status} Credits: " ++ String.ofList (Text.ofInt64 account.credits)

/-- The notification that is due, if the balance is below the threshold. -/
def due? (account : Account) : Option Notification :=
  match account.subscription with
  | some subscription =>
      if account.credits < subscription.threshold then
        some ⟨subscription.handle, account.name, subscription.threshold⟩
      else
        none
  | none => none

/-- A subscription that is due is used up. -/
def fire (account : Account) : Account :=
  if account.due?.isSome then { account with subscription := none } else account

end Account

structure Accounts where
  accounts : List Account
deriving DecidableEq, Repr

namespace Accounts

/-- Adds an account at the end. An account of the same name gives way. -/
def insert (accounts : Accounts) (account : Account) : Accounts :=
  ⟨accounts.accounts.filter (·.name != account.name) ++ [account]⟩

def ofUsers (users : List User) : Accounts :=
  users.foldl (fun accounts user => accounts.insert (.ofUser user)) ⟨[]⟩

def find? (accounts : Accounts) (name : String) : Option Account :=
  accounts.accounts.find? (·.name == name)

/-- Changes the account of a name, if there is one. -/
def modify (accounts : Accounts) (name : String) (change : Account → Account) : Accounts :=
  ⟨accounts.accounts.map fun account => if account.name = name then change account else account⟩

def setOnline (accounts : Accounts) (name : String) (online : Bool) : Accounts :=
  accounts.modify name ({ · with online := online })

def login (accounts : Accounts) (name password : String) : LoginOutcome × Accounts :=
  match accounts.find? name with
  | none => (.wrongCredentials, accounts)
  | some account =>
      if account.password = password then
        if account.online then
          (.alreadyLoggedIn, accounts)
        else
          (.loggedIn, accounts.setOnline name true)
      else
        (.wrongCredentials, accounts)

def logout (accounts : Accounts) (name : String) : Accounts := accounts.setOnline name false

def credits? (accounts : Accounts) (name : String) : Option Int64 :=
  (accounts.find? name).map Account.credits

/-- Adds to a balance. Gives the new balance and the notification that this
brings about. -/
def adjust (accounts : Accounts) (name : String) (delta : Int64) :
    Option Int64 × Option Notification × Accounts :=
  match accounts.find? name with
  | none => (none, none, accounts)
  | some account =>
      let changed := { account with credits := saturatingSignedSum account.credits delta }
      (some changed.credits, changed.due?, accounts.modify name fun _ => changed.fire)

def subscribe (accounts : Accounts) (name : String) (threshold : Int64)
    (handle : CallbackHandle) : Except SubscribeRefusal Unit × Accounts :=
  if threshold < 1 then
    (.error .thresholdBelowOne, accounts)
  else
    match accounts.find? name with
    | none => (.error (.unknownUser name), accounts)
    | some account =>
        if account.subscription.isSome then
          (.error (.alreadySubscribed name), accounts)
        else
          (.ok (), accounts.modify name
            ({ · with subscription := some ⟨handle, threshold⟩ }))

end Accounts

end ArithmeticCloud.Billing
