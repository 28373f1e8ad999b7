import ArithmeticCloud.Proofs.Service.Processes
import Mathlib

/-!
Contract: how a request handles the balance of its user.

Owns:
- `Standing`, what a request owes, how much more it may spend and what it has
  bought, at a point between two queries;
- `Prudent`, what keeps a balance from falling below zero: a sub-operation is
  handed to a node only within an allowance that the balance was seen to cover,
  and a change pays for exactly what is owed;
- every request that is not too long is prudent.

Does not own: the balance, which other sessions may see at any time.
-/

namespace ArithmeticCloud.Service

open Billing Network Text

/-! ## Prices -/

theorem toInt_price {operations : Nat} (bounded : 50 * operations < 2 ^ 63) :
    (price operations).toInt = 50 * operations := by
  have cost : costPerOperation.toInt = 50 := by decide
  unfold price
  rw [Int64.toInt_mul, cost, Int64.toInt_ofNat_of_lt (by omega)]
  exact Int.bmod_eq_of_le_mul_two (by omega) (by omega)

theorem toInt_neg_price {operations : Nat} (bounded : 50 * operations < 2 ^ 63) :
    (-price operations).toInt = -(50 * operations) := by
  rw [Int64.toInt_neg, toInt_price bounded]
  exact Int.bmod_eq_of_le_mul_two (by omega) (by omega)

/-! ## Prudent processes -/

/-- Where a request stands with the balance of its user. -/
structure Standing where
  /-- Sub-operations handed to nodes and not paid for. -/
  owed : Nat
  /-- Further sub-operations that the balance is known to cover. -/
  allowance : Nat
  /-- Credits that were bought by a request whose response is not given yet. -/
  gained : Int

/-- Nothing is owed, allowed or bought. -/
def Standing.clear : Standing := ⟨0, 0, 0⟩

/-- The credits that a request has bought, going by its response. -/
def purchase (line : String) : Response → Int
  | .creditsNow _ =>
      match Request.ofLine line with
      | .buy amount => ((int64? amount).map Int64.toInt).getD 0
      | _ => 0
  | _ => 0

/-- Whether a query has nothing to do with a balance. -/
def Query.IsFree : Query → Prop
  | .credits _ | .adjust .. | .compute .. => False
  | _ => True

/-- What is left of a request neither spends more than is allowed nor ends in
debt. -/
inductive Prudent (session : Session) (line : String) :
    Standing → Process (Response × Session) → Prop where
  | done {standing : Standing} (response : Response) (after : Session)
      (paid : standing.owed = 0) (told : standing.gained = purchase line response) :
      Prudent session line standing (.done (response, after))
  | credits {standing : Standing} (name : String)
      (next : Option Int64 → Process (Response × Session)) (held : session.user = some name)
      (paid : standing.owed = 0) (told : standing.gained = 0)
      (allowance : Option Int64 → Nat)
      (covered : ∀ balance, 50 * (allowance balance : Int) ≤ max 0 (balance.getD 0).toInt)
      (rest : ∀ balance, Prudent session line ⟨0, allowance balance, 0⟩ (next balance)) :
      Prudent session line standing (.ask (.credits name) next)
  | adjust {standing : Standing} (name : String) (delta : Int64)
      (next : Option Int64 → Process (Response × Session)) (held : session.user = some name)
      (told : standing.gained = 0) (gain : Nat)
      (worth : delta.toInt = gain - 50 * (standing.owed : Int))
      (rest : ∀ balance, Prudent session line ⟨0, 0, gain⟩ (next balance)) :
      Prudent session line standing (.ask (.adjust name delta) next)
  | compute {standing : Standing} (node : Endpoint) (left : Int64) (operator : Operator)
      (right : Int64) (next : Except Fault Reply → Process (Response × Session)) (name : String)
      (held : session.user = some name) (allowance : Nat)
      (allowed : standing.allowance = allowance + 1)
      (rest : ∀ answer,
        Prudent session line ⟨standing.owed + 1, allowance, standing.gained⟩ (next answer)) :
      Prudent session line standing (.ask (.compute node left operator right) next)
  | free {standing : Standing} (query : Query) (next : query.Answer → Process (Response × Session))
      (isFree : query.IsFree) (rest : ∀ answer, Prudent session line standing (next answer)) :
      Prudent session line standing (.ask query next)

theorem Prudent.rest_of_free {session : Session} {line : String} {standing : Standing}
    {query : Query} {next : query.Answer → Process (Response × Session)}
    (prudent : Prudent session line standing (.ask query next)) (isFree : query.IsFree)
    (answer : query.Answer) : Prudent session line standing (next answer) := by
  cases prudent with
  | credits => exact isFree.elim
  | adjust => exact isFree.elim
  | compute => exact isFree.elim
  | free query next isFree rest => exact rest answer

/-! ## Requests are prudent -/

theorem Process.bind_assoc {α β γ : Type} (process : Process α) (first : α → Process β)
    (second : β → Process γ) :
    process >>= first >>= second = process >>= fun result => first result >>= second := by
  induction process with
  | done result => rfl
  | ask query next inductionHypothesis =>
      rw [Process.ask_bind, Process.ask_bind, Process.ask_bind]
      congr 1
      funext answer
      exact inductionHypothesis answer

section Requests

variable {session : Session} {line : String}

/-- The fold hands over at most one sub-operation a step, and owes for each. What
follows may count on that. -/
theorem evaluateFrom_prudent {name : String} (held : session.user = some name)
    {continuation : Evaluation → Process (Response × Session)} (attempted : Nat) (value : Int64)
    (steps : List (Operator × Int64))
    (rest : ∀ result total allowance, total ≤ attempted + steps.length →
      Prudent session line ⟨total, allowance, 0⟩ (continuation ⟨result, total⟩)) :
    Prudent session line ⟨attempted, steps.length, 0⟩
      (evaluateFrom attempted value steps >>= continuation) := by
  induction steps generalizing attempted value with
  | nil => exact rest (.value value) attempted 0 (by simp)
  | cons step others inductionHypothesis =>
      rcases step with ⟨operator, operand⟩
      refine .free (.pick operator) _ trivial fun picked => ?_
      cases picked with
      | none => exact rest .noNodes attempted _ (by omega)
      | some node =>
          have once (result : EvaluationResult) :
              Prudent session line ⟨attempted + 1, others.length, 0⟩
                (continuation ⟨result, attempted + 1⟩) :=
            rest result (attempted + 1) others.length (by rw [List.length_cons]; omega)
          refine .compute node value operator operand _ name held others.length rfl fun answer => ?_
          match answer with
          | .ok (.value number) =>
              refine .free (.addUsage node (usageOf number)) _ trivial fun _ => ?_
              refine inductionHypothesis (attempted + 1) number fun result total allowance few => ?_
              exact rest result total allowance (by rw [List.length_cons]; omega)
          | .ok .divisionByZero => exact once .divisionByZero
          | .error _ => exact .free (.markOffline node) _ trivial fun _ => once .noNodes

theorem computeFor_prudent {name : String} (held : session.user = some name)
    {expression : Expression} (bounded : 50 * expression.subOperations < 2 ^ 63) :
    Prudent session line .clear
      (computeFor name expression >>= fun outcome => .done (.computed outcome, session)) := by
  rw [computeFor_eq, Process.ask_bind]
  refine .credits name _ held rfl rfl
    (fun balance =>
      if balance.getD 0 < price expression.subOperations then 0 else expression.subOperations)
    (fun balance => ?_) fun balance => ?_
  · split
    · omega
    · next enough =>
        rw [Int64.lt_iff_toInt_lt, toInt_price bounded] at enough
        omega
  · split
    · exact .done _ _ rfl rfl
    · rw [Process.bind_assoc]
      refine evaluateFrom_prudent held 0 expression.first expression.steps
        fun result total allowance few => ?_
      have affordable : 50 * total < 2 ^ 63 := by
        rw [Nat.zero_add] at few
        have whole : 50 * expression.steps.length < 2 ^ 63 := bounded
        omega
      dsimp only
      split
      · refine .adjust name _ _ held rfl 0 ?_ fun _ => .done _ _ rfl rfl
        rw [toInt_neg_price affordable]
        simp
      · next nothing =>
          obtain rfl : total = 0 := by omega
          exact .done _ _ rfl rfl

end Requests

/-- The request has fewer than 2⁶³ / 50 sub-operations, so its price is a word. -/
def Request.Bounded : Request → Prop
  | .compute operands =>
      ∀ expression ∈ Expression.ofWords? operands, 50 * expression.subOperations < 2 ^ 63
  | _ => True

instance : DecidablePred Request.Bounded
  | .compute operands => inferInstanceAs (Decidable
      (∀ expression ∈ Expression.ofWords? operands, 50 * expression.subOperations < 2 ^ 63))
  | .empty | .unknown _ | .malformed _ | .login .. | .logout | .credits | .buy _ | .list =>
      .isTrue trivial

/-- Every request is prudent. -/
theorem handle_prudent (session : Session) (line : String)
    (bounded : (Request.ofLine line).Bounded) :
    Prudent session line .clear (session.handle line) := by
  unfold Session.handle
  cases request : Request.ofLine line with
  | empty => exact .done _ _ rfl rfl
  | unknown command => exact .done _ _ rfl rfl
  | malformed problem => exact .done _ _ rfl rfl
  | login name password =>
      change Prudent session line .clear (session.login name password)
      unfold Session.login
      split
      · exact .done _ _ rfl rfl
      · exact .free (.login name password) _ trivial fun outcome => .done _ _ rfl rfl
  | logout =>
      change Prudent session line .clear session.logout
      unfold Session.logout
      split
      · exact .done _ _ rfl rfl
      · exact .free (.logout _) _ trivial fun _ => .done _ _ rfl rfl
  | credits =>
      simp only [Session.handleRequest, Session.withUser]
      split
      · exact .done _ _ rfl rfl
      · next user held =>
          exact .credits user _ held rfl rfl (fun _ => 0) (fun _ => by omega)
            fun _ => .done _ _ rfl rfl
  | buy amount =>
      simp only [Session.handleRequest, Session.withUser, Session.buy]
      split
      · exact .done _ _ rfl rfl
      · next user held =>
          split
          · exact .done _ _ rfl rfl
          · next credits read =>
              split
              · next positive =>
                  rw [Int64.lt_iff_toInt_lt] at positive
                  have zero : (0 : Int64).toInt = 0 := rfl
                  have bought : purchase line (.creditsNow 0) = credits.toInt := by
                    simp [purchase, request, read]
                  refine .adjust user credits _ held rfl credits.toInt.toNat ?_ fun _ =>
                    .done _ _ rfl ?_
                  · simp only [Standing.clear]
                    omega
                  · change ((credits.toInt.toNat : Nat) : Int) = purchase line (.creditsNow 0)
                    rw [bought]
                    omega
              · exact .done _ _ rfl rfl
  | list =>
      simp only [Session.handleRequest, Session.withUser]
      split
      · exact .done _ _ rfl rfl
      · exact .free .availableOperators _ trivial fun _ => .done _ _ rfl rfl
  | compute expression =>
      rw [request] at bounded
      refine .free (.count line) _ trivial fun _ => ?_
      change Prudent session line .clear
        (session.withUser (Session.compute expression) >>= fun response =>
          .done (response, session))
      unfold Session.withUser
      split
      · exact .done _ _ rfl rfl
      · next user held =>
          unfold Session.compute
          split
          · exact .done _ _ rfl rfl
          · next parsed read =>
              rw [Process.bind_assoc]
              exact computeFor_prudent held (bounded parsed read)

end ArithmeticCloud.Service
