import ArithmeticCloud.Service.Session

/-!
Contract: the processes of the service, seen from outside.

Owns:
- `Process.Uses`, the queries that a process may come to;
- the shape of a charge: the balance is asked for first, and what was attempted
  is paid for by one change at the end;
- which requests concern logins, and which do not.

Does not own: what a query does to the state that sessions share.
-/

namespace ArithmeticCloud.Service

/-! ## Queries of a process -/

/-- Every query that the process can come to is allowed. -/
def Process.Uses {α : Type} (allowed : Query → Prop) : Process α → Prop
  | .done _ => True
  | .ask query next => allowed query ∧ ∀ answer, (next answer).Uses allowed

theorem Process.Uses.mono {α : Type} {allowed wider : Query → Prop} {process : Process α}
    (uses : process.Uses allowed) (within : ∀ query, allowed query → wider query) :
    process.Uses wider := by
  induction process with
  | done result => trivial
  | ask query next inductionHypothesis =>
      exact ⟨within query uses.1, fun answer => inductionHypothesis answer (uses.2 answer)⟩

theorem Process.Uses.bind {α β : Type} {allowed : Query → Prop} {process : Process α}
    {continuation : α → Process β} (first : process.Uses allowed)
    (second : ∀ result, (continuation result).Uses allowed) :
    (process >>= continuation).Uses allowed := by
  induction process with
  | done result => exact second result
  | ask query next inductionHypothesis =>
      exact ⟨first.1, fun answer => inductionHypothesis answer (first.2 answer)⟩

/-- Whether a query is part of an evaluation. -/
def Query.evaluates : Query → Bool
  | .pick _ | .compute .. | .addUsage .. | .markOffline _ => true
  | _ => false

theorem evaluateFrom_uses {allowed : Query → Prop}
    (evaluating : ∀ query : Query, query.evaluates = true → allowed query) (attempted : Nat)
    (value : Int64) (steps : List (Operator × Int64)) :
    (evaluateFrom attempted value steps).Uses allowed := by
  induction steps generalizing attempted value with
  | nil => trivial
  | cons step others inductionHypothesis =>
      refine ⟨evaluating _ rfl, fun picked => ?_⟩
      cases picked with
      | none => trivial
      | some node =>
          refine ⟨evaluating _ rfl, fun answer => ?_⟩
          match answer with
          | .ok (.value number) =>
              exact ⟨evaluating _ rfl, fun _ => inductionHypothesis (attempted + 1) number⟩
          | .ok .divisionByZero => trivial
          | .error _ => exact ⟨evaluating _ rfl, fun _ => trivial⟩

theorem computeFor_eq (user : String) (expression : Expression) :
    computeFor user expression = .ask (.credits user) fun balance =>
      if balance.getD 0 < price expression.subOperations then
        .done .notEnoughCredits
      else
        evaluate expression >>= fun evaluation =>
          if 0 < evaluation.attempted then
            .ask (.adjust user (-price evaluation.attempted)) fun _ =>
              .done (.evaluated evaluation.result)
          else
            .done (.evaluated evaluation.result) := rfl

theorem computeFor_uses {allowed : Query → Prop} {user : String}
    (evaluating : ∀ query : Query, query.evaluates = true → allowed query)
    (credits : allowed (.credits user)) (adjusts : ∀ delta, allowed (.adjust user delta))
    (expression : Expression) : (computeFor user expression).Uses allowed := by
  rw [computeFor_eq]
  refine ⟨credits, fun balance => ?_⟩
  dsimp only
  split
  · trivial
  · apply (evaluateFrom_uses evaluating 0 expression.first expression.steps).bind
    intro evaluation
    split
    · exact ⟨adjusts _, fun _ => trivial⟩
    · trivial

/-! ## Queries that do not concern logins -/

/-- Whether a query leaves alone who is logged in. -/
def Query.IsNeutral : Query → Prop
  | .login .. | .logout _ => False
  | _ => True

theorem Query.isNeutral_of_evaluates (query : Query) (evaluates : query.evaluates = true) :
    query.IsNeutral := by
  cases query with
  | login name password => cases evaluates
  | logout name => cases evaluates
  | _ => trivial

theorem computeFor_uses_neutral (user : String) (expression : Expression) :
    (computeFor user expression).Uses Query.IsNeutral :=
  computeFor_uses Query.isNeutral_of_evaluates trivial (fun _ => trivial) expression

end ArithmeticCloud.Service
