import ArithmeticCloud.Arithmetic.Expression
import ArithmeticCloud.Text.Blank

/-!
Contract: the commands of a client.

Owns: the reading of a request line, with the number of parameters checked before
anything else. Commands are case-sensitive and keep their exclamation mark.

Does not own: whether the request is allowed.
-/

namespace ArithmeticCloud.Service

open Text

/-- A wrong number of parameters. -/
inductive ArityProblem where
  | noneAllowed
  | tooMany
  | missing
deriving DecidableEq, Repr

def ArityProblem.message : ArityProblem → String
  | .noneAllowed => "No parameters allowed!"
  | .tooMany => "Too many parameters!"
  | .missing => "Missing parameters!"

/-- What is wrong with a number of parameters other than the expected one. -/
def ArityProblem.ofCount (given expected : Nat) : ArityProblem :=
  if expected = 0 then .noneAllowed else if expected < given then .tooMany else .missing

inductive Request where
  | empty
  | unknown (command : String)
  | malformed (problem : ArityProblem)
  | login (name password : String)
  | logout
  | credits
  /-- The amount is read only once the user is known to be logged in. -/
  | buy (amount : Word)
  | list
  | compute (expression : List Word)
deriving DecidableEq, Repr

namespace Request

/-- A command without parameters. -/
def bare (request : Request) : List Word → Request
  | [] => request
  | parameters => .malformed (.ofCount parameters.length 0)

def ofWords (command : String) (parameters : List Word) : Request :=
  match command with
  | "!login" =>
      match parameters with
      | [name, password] => .login (String.ofList name) (String.ofList password)
      | _ => .malformed (.ofCount parameters.length 2)
  | "!logout" => bare .logout parameters
  | "!credits" => bare .credits parameters
  | "!buy" =>
      match parameters with
      | [amount] => .buy amount
      | _ => .malformed (.ofCount parameters.length 1)
  | "!list" => bare .list parameters
  | "!compute" => .compute parameters
  | _ => .unknown command

def ofLine (line : String) : Request :=
  match words line.toList with
  | [] => .empty
  | command :: parameters => ofWords (String.ofList command) parameters

end Request

end ArithmeticCloud.Service
