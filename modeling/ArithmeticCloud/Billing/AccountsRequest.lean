import ArithmeticCloud.Billing.Accounts

/-!
Contract: what the accounts can be asked and told.

Owns: the requests, what each is answered with, its effect, and the notification
that it brings about.

Does not own: who makes requests, and the delivery of notifications.
-/

namespace ArithmeticCloud.Billing

inductive AccountsRequest where
  | login (name password : String)
  | logout (name : String)
  | credits (name : String)
  | adjust (name : String) (delta : Int64)
  | subscribe (name : String) (threshold : Int64) (handle : CallbackHandle)
  | users
deriving DecidableEq, Repr

inductive AccountsAnswer where
  /-- A logout has no answer. -/
  | noted
  | login (outcome : LoginOutcome)
  /-- The balance of a user who exists. -/
  | balance (credits : Option Int64)
  | subscribed
  | refused (refusal : SubscribeRefusal)
  | users (accounts : List Account)
deriving DecidableEq, Repr

def Accounts.handle (accounts : Accounts) :
    AccountsRequest → AccountsAnswer × Option Notification × Accounts
  | .login name password =>
      let (outcome, accounts) := accounts.login name password
      (.login outcome, none, accounts)
  | .logout name => (.noted, none, accounts.logout name)
  | .credits name => (.balance (accounts.credits? name), none, accounts)
  | .adjust name delta =>
      let (balance, due, accounts) := accounts.adjust name delta
      (.balance balance, due, accounts)
  | .subscribe name threshold handle =>
      match accounts.subscribe name threshold handle with
      | (.ok (), accounts) => (.subscribed, none, accounts)
      | (.error refusal, accounts) => (.refused refusal, none, accounts)
  | .users => (.users accounts.accounts, none, accounts)

/-- Whether whoever makes the request waits for an answer. -/
def AccountsRequest.isAnswered : AccountsRequest → Bool
  | .logout _ => false
  | _ => true

end ArithmeticCloud.Billing
