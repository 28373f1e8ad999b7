import ArithmeticCloud.Proofs.Service.Calls
import ArithmeticCloud.Proofs.Service.Processes

/-!
Contract: a process that was given a node uses it once, and charges it.

Owns:
- `Paying`, what is left of a process that holds a node or none: a node comes from a
  pick only, it is handed one sub-operation, and it is given up by a charge of bounded
  size or by a division by zero;
- that every request of a session pays in this way, while nodes do not fail.

Does not own: the order in which the queries of several sessions are answered.
-/

namespace ArithmeticCloud.Service

open Network

/-! ## Queries of an evaluation -/

/-- The node that a query gives a sub-operation to, or charges for one. -/
def Query.node? : Query → Option Endpoint
  | .compute node .. => some node
  | .addUsage node _ => some node
  | _ => none

theorem Query.evaluates_of_node? {query : Query} (concerns : query.node?.isSome = true) :
    query.evaluates = true := by
  cases query with
  | compute node left operator right => rfl
  | addUsage node amount => rfl
  | _ => cases concerns

/-! ## Processes that pay -/

/-- What is left of a process that holds a node, or none. -/
inductive Paying {α : Type} : Option Endpoint → Process α → Prop where
  | done (result : α) : Paying none (.done result)
  | pick (operator : Operator) (next : Option Endpoint → Process α)
      (rest : ∀ picked, Paying picked (next picked)) :
      Paying none (.ask (.pick operator) next)
  | compute (node : Endpoint) (left : Int64) (operator : Operator) (right : Int64)
      (next : Except Fault Reply → Process α)
      (value : ∀ number, Paying (some node) (next (.ok (.value number))))
      (divided : Paying none (next (.ok .divisionByZero))) :
      Paying (some node) (.ask (.compute node left operator right) next)
  | addUsage (node : Endpoint) (amount : UInt64) (next : Unit → Process α)
      (bounded : amount.toNat ≤ 950) (rest : Paying none (next ())) :
      Paying (some node) (.ask (.addUsage node amount) next)
  | other (query : Query) (next : query.Answer → Process α) (isOther : query.evaluates = false)
      (rest : ∀ answer, Paying none (next answer)) :
      Paying none (.ask query next)

namespace Paying

section Inversions

variable {α : Type} {held : Option Endpoint}

/-- The next query says which node is held. -/
theorem node?_eq {query : Query} {next : query.Answer → Process α}
    (paying : Paying held (.ask query next)) : query.node? = held := by
  cases paying with
  | pick operator next rest => rfl
  | compute node left operator right next value divided => rfl
  | addUsage node amount next bounded rest => rfl
  | other query next isOther rest =>
      cases query with
      | compute node left operator right => cases isOther
      | addUsage node amount => cases isOther
      | _ => rfl

theorem of_done {result : α} (paying : Paying held (.done result)) : held = none := by
  cases paying with
  | done result => rfl

theorem of_pick {operator : Operator} {next : Option Endpoint → Process α}
    (paying : Paying held (.ask (.pick operator) next)) (picked : Option Endpoint) :
    Paying picked (next picked) := by
  cases paying with
  | pick operator next rest => exact rest picked
  | other query next isOther rest => cases isOther

theorem of_value {node : Endpoint} {left : Int64} {operator : Operator} {right : Int64}
    {next : Except Fault Reply → Process α}
    (paying : Paying held (.ask (.compute node left operator right) next)) (number : Int64) :
    Paying (some node) (next (.ok (.value number))) := by
  cases paying with
  | compute node left operator right next value divided => exact value number
  | other query next isOther rest => cases isOther

theorem of_divided {node : Endpoint} {left : Int64} {operator : Operator} {right : Int64}
    {next : Except Fault Reply → Process α}
    (paying : Paying held (.ask (.compute node left operator right) next)) :
    Paying none (next (.ok .divisionByZero)) := by
  cases paying with
  | compute node left operator right next value divided => exact divided
  | other query next isOther rest => cases isOther

theorem of_addUsage {node : Endpoint} {amount : UInt64} {next : Unit → Process α}
    (paying : Paying held (.ask (.addUsage node amount) next)) :
    amount.toNat ≤ 950 ∧ Paying none (next ()) := by
  cases paying with
  | addUsage node amount next bounded rest => exact ⟨bounded, rest⟩
  | other query next isOther rest => cases isOther

theorem not_markOffline {node : Endpoint} {next : Unit → Process α} :
    ¬ Paying held (.ask (.markOffline node) next) := by
  intro paying
  cases paying with
  | other query next isOther rest => cases isOther

theorem of_other {query : Query} {next : query.Answer → Process α}
    (paying : Paying held (.ask query next)) (isOther : query.evaluates = false)
    (answer : query.Answer) : Paying none (next answer) := by
  cases paying with
  | pick operator next rest => cases isOther
  | compute node left operator right next value divided => cases isOther
  | addUsage node amount next bounded rest => cases isOther
  | other query next isOther rest => exact rest answer

end Inversions

theorem bind {α β : Type} {held : Option Endpoint} {process : Process α}
    {continuation : α → Process β} (paying : Paying held process)
    (rest : ∀ result, Paying none (continuation result)) :
    Paying held (process >>= continuation) := by
  induction paying with
  | done result => exact rest result
  | pick operator next _ inductionHypothesis => exact .pick operator _ inductionHypothesis
  | compute node left operator right next _ _ value divided =>
      exact .compute node left operator right _ value divided
  | addUsage node amount next bounded _ inductionHypothesis =>
      exact .addUsage node amount _ bounded inductionHypothesis
  | other query next isOther _ inductionHypothesis =>
      exact .other query _ isOther inductionHypothesis

end Paying

/-! ## Requests -/

/-- Every sub-operation of an evaluation is paid for by the node that was picked. -/
theorem evaluateFrom_paying (attempted : Nat) (value : Int64) (steps : List (Operator × Int64)) :
    Paying none (evaluateFrom attempted value steps) := by
  induction steps generalizing attempted value with
  | nil => exact .done _
  | cons step others inductionHypothesis =>
      rcases step with ⟨operator, operand⟩
      refine .pick operator _ fun picked => ?_
      cases picked with
      | none => exact .done _
      | some node =>
          refine .compute node value operator operand _ (fun number => ?_) (.done _)
          refine .addUsage node (usageOf number) _ ?_ (inductionHypothesis (attempted + 1) number)
          have few := digitCount_value_le number
          rw [toNat_usageOf]
          omega

theorem computeFor_paying (user : String) (expression : Expression) :
    Paying none (computeFor user expression) := by
  rw [computeFor_eq]
  refine .other (.credits user) _ rfl fun balance => ?_
  split
  · exact .done _
  · refine (evaluateFrom_paying 0 expression.first expression.steps).bind fun evaluation => ?_
    split
    · exact .other (.adjust user _) _ rfl fun _ => .done _
    · exact .done _

theorem withUser_paying (session : Session) {action : String → Process Response}
    (paying : ∀ user, Paying none (action user)) :
    Paying none (session.withUser action >>= fun response => .done (response, session)) := by
  refine Paying.bind ?_ fun response => .done (response, session)
  unfold Session.withUser
  split
  · exact .done _
  · exact paying _

theorem handleRequest_paying (session : Session) (line : String) (request : Request) :
    Paying none (session.handleRequest line request) := by
  cases request with
  | empty => exact .done _
  | unknown command => exact .done _
  | malformed problem => exact .done _
  | login name password =>
      show Paying none (session.login name password)
      unfold Session.login
      split
      · exact .done _
      · exact .other (.login name password) _ rfl fun _ => .done _
  | logout =>
      show Paying none session.logout
      unfold Session.logout
      split
      · exact .done _
      · next user _ => exact .other (.logout user) _ rfl fun _ => .done _
  | credits =>
      apply withUser_paying session
      intro user
      exact .other (.credits user) _ rfl fun _ => .done _
  | buy amount =>
      apply withUser_paying session
      intro user
      unfold Session.buy
      split
      · exact .done _
      · next delta _ =>
          split
          · exact .other (.adjust user delta) _ rfl fun _ => .done _
          · exact .done _
  | list =>
      apply withUser_paying session
      intro user
      exact .other .availableOperators _ rfl fun _ => .done _
  | compute expression =>
      refine .other (.count line) _ rfl fun _ => ?_
      apply withUser_paying session
      intro user
      unfold Session.compute
      split
      · exact .done _
      · exact (computeFor_paying user _).bind fun _ => .done _

/-- Every request pays for the nodes that it is given. -/
theorem handle_paying (session : Session) (line : String) : Paying none (session.handle line) :=
  handleRequest_paying session line _

end ArithmeticCloud.Service
