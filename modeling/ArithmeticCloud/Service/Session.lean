import ArithmeticCloud.Service.Evaluation
import ArithmeticCloud.Service.Request

/-!
Contract: one client's session, at most one user at a time.

Owns: which requests need a login, what each request does, and its one-line
response. Every check that rejects a request comes before the queries that would
change anything.

Does not own: the channel over which requests come.
-/

namespace ArithmeticCloud.Service

open Billing Text

inductive Response where
  | emptyRequest
  | unknownCommand (command : String)
  | malformed (problem : ArityProblem)
  | notLoggedIn
  | login (outcome : LoginOutcome)
  | loggedOut
  | creditsLeft (balance : Int64)
  | amountNotANumber
  | amountNotPositive
  | creditsNow (balance : Int64)
  | operators (available : OperatorSet)
  | invalidExpression
  | computed (outcome : ComputeOutcome)
deriving DecidableEq, Repr

namespace Response

def text : Response → String
  | .emptyRequest => "Empty request!"
  | .unknownCommand command => "Unknown command `" ++ command ++ "`!"
  | .malformed problem => problem.message
  | .notLoggedIn => "You are not logged in!"
  | .login outcome => outcome.message
  | .loggedOut => "Logged out successfully."
  | .creditsLeft balance => "You have " ++ String.ofList (ofInt64 balance) ++ " credits left."
  | .amountNotANumber => "The amount of credits should be a number!"
  | .amountNotPositive => "The amount of credits should be greater than 0!"
  | .creditsNow balance => "You now have " ++ String.ofList (ofInt64 balance) ++ " credits."
  | .operators available =>
      if available.isEmpty then "No operations available" else String.ofList available.text
  | .invalidExpression => "Invalid expression!"
  | .computed outcome => outcome.text

end Response

structure Session where
  user : Option String
deriving DecidableEq, Repr

namespace Session

def anonymous : Session := ⟨none⟩

/-- Does what needs a logged-in user, or tells that there is none. -/
def withUser (session : Session) (action : String → Process Response) : Process Response :=
  match session.user with
  | none => .done .notLoggedIn
  | some user => action user

def login (session : Session) (name password : String) : Process (Response × Session) := do
  if session.user.isSome then
    return (.login .alreadyLoggedIn, session)
  else
    let outcome ← Process.query (.login name password)
    return (.login outcome, if outcome = .loggedIn then ⟨some name⟩ else session)

def logout (session : Session) : Process (Response × Session) :=
  match session.user with
  | none => .done (.notLoggedIn, session)
  | some user => do
      Process.query (.logout user)
      return (.loggedOut, anonymous)

def credits (user : String) : Process Response := do
  let balance ← Process.query (.credits user)
  return .creditsLeft (balance.getD 0)

def buy (amount : Word) (user : String) : Process Response :=
  match int64? amount with
  | none => .done .amountNotANumber
  | some amount =>
      if 0 < amount then do
        let balance ← Process.query (.adjust user amount)
        return .creditsNow (balance.getD 0)
      else
        .done .amountNotPositive

def list (_user : String) : Process Response := do
  return .operators (← Process.query .availableOperators)

def compute (expression : List Word) (user : String) : Process Response :=
  match Expression.ofWords? expression with
  | none => .done .invalidExpression
  | some expression => do return .computed (← computeFor user expression)

/-- Handles a request whose line is `line`. -/
def handleRequest (session : Session) (line : String) : Request → Process (Response × Session)
  | .empty => .done (.emptyRequest, session)
  | .unknown command => .done (.unknownCommand command, session)
  | .malformed problem => .done (.malformed problem, session)
  | .login name password => session.login name password
  | .logout => session.logout
  | .credits => do return (← session.withUser credits, session)
  | .buy amount => do return (← session.withUser (buy amount), session)
  | .list => do return (← session.withUser list, session)
  | .compute expression => do
      Process.query (.count line)
      return (← session.withUser (compute expression), session)

def handle (session : Session) (line : String) : Process (Response × Session) :=
  session.handleRequest line (Request.ofLine line)

/-- What a session does at its end: its user, if any, is logged out. -/
def leave (session : Session) : Process Session :=
  match session.user with
  | none => .done session
  | some user => do
      Process.query (.logout user)
      return anonymous

end Session

end ArithmeticCloud.Service
