import ArithmeticCloud.Billing.Accounts
import ArithmeticCloud.Fault
import ArithmeticCloud.Network.Address
import ArithmeticCloud.Arithmetic.OperatorSet

/-!
Contract: what a session does to the state that all sessions share, one query at
a time.

Owns:
- `Query`, a single step on the accounts, the registry, the statistics or a node,
  and the type of its answer;
- `Process`, queries in sequence, each chosen from the answers so far.

Does not own: the answers, and the order in which the queries of several
processes are answered. A process is the same however they are interleaved.
-/

namespace ArithmeticCloud.Service

open Billing Network

inductive Query where
  | login (name password : String)
  /-- Posted: the session does not wait until it is handled. -/
  | logout (name : String)
  | credits (name : String)
  | adjust (name : String) (delta : Int64)
  | availableOperators
  | pick (operator : Operator)
  /-- Posted. -/
  | addUsage (node : Endpoint) (amount : UInt64)
  /-- Posted. -/
  | markOffline (node : Endpoint)
  /-- Hands a sub-operation to a node. -/
  | compute (node : Endpoint) (left : Int64) (operator : Operator) (right : Int64)
  /-- Counts the operators of a request line. -/
  | count (line : String)
deriving DecidableEq, Repr

/-- What a query is answered with. A node may fail without the process failing. -/
abbrev Query.Answer : Query → Type
  | .login .. => LoginOutcome
  | .logout _ => Unit
  | .credits _ => Option Int64
  | .adjust .. => Option Int64
  | .availableOperators => OperatorSet
  | .pick _ => Option Endpoint
  | .addUsage .. => Unit
  | .markOffline _ => Unit
  | .compute .. => Except Fault Reply
  | .count _ => Unit

inductive Process (α : Type) where
  | done (result : α)
  | ask (query : Query) (next : query.Answer → Process α)

namespace Process

variable {α β : Type}

def andThen : Process α → (α → Process β) → Process β
  | .done result, continuation => continuation result
  | .ask query next, continuation => .ask query fun answer => (next answer).andThen continuation

instance : Monad Process where
  pure := .done
  bind := andThen

def query (query : Query) : Process query.Answer := .ask query .done

@[simp] theorem pure_eq_done (result : α) : (pure result : Process α) = .done result := rfl

@[simp] theorem done_bind (result : α) (continuation : α → Process β) :
    Process.done result >>= continuation = continuation result := rfl

@[simp] theorem ask_bind (query : Query) (next : query.Answer → Process α)
    (continuation : α → Process β) :
    Process.ask query next >>= continuation =
      .ask query fun answer => next answer >>= continuation := rfl

end Process

end ArithmeticCloud.Service
