import ArithmeticCloud.Proofs.Arithmetic.Wrapping
import ArithmeticCloud.Proofs.Fleet.Views
import ArithmeticCloud.Proofs.Service.Answers
import ArithmeticCloud.Service.NodeLink

/-!
Contract: what an evaluation comes to on nodes that compute.

Owns:
- `Process.Meets`, what a process asks and comes to while its queries are answered in a
  certain way, and how a controller brings such a process to its end;
- the rules by which the steps of an expression lead to a result;
- that evaluation follows these rules while every operator finds a node, and what this
  says of expressions with and without divisions.

Does not own: nodes that fail, and operators without a node.
-/

namespace ArithmeticCloud.Service

open Billing Fleet Network Text

/-! ## Processes whose queries are answered in a certain way -/

/-- While its queries are answered so, the process asks what is allowed only, and every
result that it can come to is as expected. -/
def Process.Meets {α : Type} (allowed : Query → Prop)
    (answers : (query : Query) → query.Answer → Prop) (expected : α → Prop) :
    Process α → Prop
  | .done result => expected result
  | .ask query next =>
      allowed query ∧
        ∀ answer, answers query answer → (next answer).Meets allowed answers expected

theorem Process.Meets.imp {α : Type} {allowed : Query → Prop}
    {answers : (query : Query) → query.Answer → Prop} {expected wanted : α → Prop}
    {process : Process α} (meets : process.Meets allowed answers expected)
    (enough : ∀ result, expected result → wanted result) :
    process.Meets allowed answers wanted := by
  induction process with
  | done result => exact enough result meets
  | ask query next inductionHypothesis =>
      obtain ⟨asked, rest⟩ := meets
      exact ⟨asked, fun answer answered => inductionHypothesis answer (rest answer answered)⟩

/-- A controller brings the process to its end if it gives such answers from a state that
allowed queries do not leave. -/
theorem Controller.run_meets {σ α : Type} {link : Link σ} {Holds : Controller σ → Prop}
    {allowed : Query → Prop} {answers : (query : Query) → query.Answer → Prop}
    {expected : α → Prop}
    (keeps : ∀ controller query, Holds controller → allowed query →
      ∃ found after, controller.answer link query = (.ok found, after) ∧
        answers query found ∧ Holds after)
    {process : Process α} (meets : process.Meets allowed answers expected)
    {controller : Controller σ} (holds : Holds controller) :
    ∃ result after, controller.run link process = (.ok result, after) ∧ expected result := by
  induction process generalizing controller with
  | done result => exact ⟨result, controller, rfl, meets⟩
  | ask query next inductionHypothesis =>
      obtain ⟨asked, rest⟩ := meets
      obtain ⟨found, between, answered, answeredSo, stillHolds⟩ :=
        keeps controller query holds asked
      obtain ⟨result, after, ran, wanted⟩ :=
        inductionHypothesis found (rest found answeredSo) stillHolds
      refine ⟨result, after, ?_, wanted⟩
      rw [run, answered]
      exact ran

/-! ## How steps lead to a result -/

/-- The steps lead from a value to a result, and so many of them are handed to nodes. A
division by zero ends them. -/
inductive LeadsTo : Int64 → List (Operator × Int64) → EvaluationResult → Nat → Prop where
  | done (value : Int64) : LeadsTo value [] (.value value) 0
  | step {operator : Operator} {left right next : Int64} {others : List (Operator × Int64)}
      {result : EvaluationResult} {count : Nat} (gives : operator.Gives left right next)
      (rest : LeadsTo next others result count) :
      LeadsTo left ((operator, right) :: others) result (count + 1)
  | zero (left : Int64) (others : List (Operator × Int64)) :
      LeadsTo left ((.div, 0) :: others) .divisionByZero 1

section Leading

variable {value : Int64} {steps : List (Operator × Int64)} {result : EvaluationResult}
  {count : Nat}

theorem LeadsTo.value_of_undivided (leads : LeadsTo value steps result count)
    (nonzero : (Operator.div, (0 : Int64)) ∉ steps) :
    ∃ number, result = .value number ∧ count = steps.length := by
  induction leads with
  | done value => exact ⟨value, rfl, rfl⟩
  | step _ _ inductionHypothesis =>
      obtain ⟨number, last, all⟩ :=
        inductionHypothesis fun later => nonzero (List.mem_cons_of_mem _ later)
      exact ⟨number, last, congrArg Nat.succ all⟩
  | zero left others => exact absurd List.mem_cons_self nonzero

/-- A step gives no word for the divisor zero. -/
theorem LeadsTo.not_gives_zero {left next : Int64} : ¬ Operator.div.Gives left 0 next := by
  rintro ⟨nonzero, -⟩
  exact nonzero rfl

theorem LeadsTo.divided_of_first {front rest : List (Operator × Int64)}
    (leads : LeadsTo value (front ++ (.div, 0) :: rest) result count)
    (first : (Operator.div, (0 : Int64)) ∉ front) :
    result = .divisionByZero ∧ count = front.length + 1 := by
  induction front generalizing value count with
  | nil =>
      cases leads with
      | step gives rest => exact absurd gives not_gives_zero
      | zero left others => exact ⟨rfl, rfl⟩
  | cons step others inductionHypothesis =>
      cases leads with
      | step gives rest =>
          obtain ⟨divided, most⟩ :=
            inductionHypothesis rest fun later => first (List.mem_cons_of_mem _ later)
          exact ⟨divided, congrArg Nat.succ most⟩
      | zero left others => exact absurd List.mem_cons_self first

/-- Without divisions the result keeps the residue of the exact value. -/
theorem LeadsTo.modEq_of_noDivision (leads : LeadsTo value steps result count)
    (undivided : ∀ step ∈ steps, step.1 ≠ .div) {exact : Int}
    (same : value.toInt ≡ exact [ZMOD 2 ^ 64]) :
    ∃ number, result = .value number ∧
      number.toInt ≡
        steps.foldl (fun total step => step.1.exact total step.2.toInt) exact
          [ZMOD 2 ^ 64] := by
  induction leads generalizing exact with
  | done value => exact ⟨value, rfl, same⟩
  | @step operator left right next others result count gives rest inductionHypothesis =>
      rw [List.forall_mem_cons] at undivided
      obtain ⟨notDivision, later⟩ := undivided
      apply inductionHypothesis later
      have given : next.toInt ≡ operator.exact left.toInt right.toInt [ZMOD 2 ^ 64] := by
        cases operator with
        | add => exact gives
        | sub => exact gives
        | mul => exact gives
        | div => exact absurd rfl notDivision
      exact given.trans (Operator.exact_modEq notDivision same right.toInt)
  | zero left others => exact absurd rfl (undivided _ List.mem_cons_self)

end Leading

/-! ## Evaluation on nodes that compute -/

/-- The queries of an evaluation whose nodes do not fail. -/
def Query.IsStep : Query → Prop
  | .pick _ | .compute .. | .addUsage .. => True
  | _ => False

/-- Every operator finds a node, and every node answers with the value of the
operator. -/
def Query.IsComputed : (query : Query) → query.Answer → Prop
  | .pick _, node => node.isSome = true
  | .compute _ left operator right, answer => answer = .ok (operator.apply left right)
  | _, _ => True

theorem evaluateFrom_meets (attempted : Nat) (value : Int64) (steps : List (Operator × Int64)) :
    (evaluateFrom attempted value steps).Meets Query.IsStep Query.IsComputed
      fun evaluation =>
        ∃ count, evaluation.attempted = attempted + count ∧
          LeadsTo value steps evaluation.result count := by
  induction steps generalizing attempted value with
  | nil => exact ⟨0, rfl, .done value⟩
  | cons step others inductionHypothesis =>
      rcases step with ⟨operator, operand⟩
      refine ⟨trivial, fun picked some => ?_⟩
      obtain ⟨node, rfl⟩ := Option.isSome_iff_exists.mp some
      refine ⟨trivial, ?_⟩
      rintro _ rfl
      rcases operator.apply_cases value operand with
        ⟨rfl, rfl, divided⟩ | ⟨-, number, answered, gives⟩
      · rw [divided]
        exact ⟨1, rfl, .zero value others⟩
      · rw [answered]
        refine ⟨trivial, fun _ _ => ?_⟩
        have goesOn := inductionHypothesis (attempted + 1) number
        refine goesOn.imp fun evaluation => ?_
        rintro ⟨count, total, leads⟩
        exact ⟨count + 1, by omega, .step gives leads⟩

/-- Every node answers a sub-operation with the value of its operator. -/
def Link.Computes {σ : Type} (link : Link σ) : Prop :=
  ∀ nodes node left operator right,
    (link.compute nodes node left operator right).1 = .ok (operator.apply left right)

/-- The registry runs, and some node can be given each operator. -/
structure Controller.Offers {σ : Type} (controller : Controller σ) : Prop where
  runs : controller.registryRuns = true
  available : ∀ operator, ∃ record ∈ controller.registry.records,
    record.serves operator = true

section Offering

variable {σ : Type} {link : Link σ} {controller : Controller σ}

/-- Usage has no part in which operators a node can be given. -/
theorem Controller.Offers.addUsage (offers : controller.Offers) (node : Endpoint)
    (amount : UInt64) : (controller.tellRegistry (·.addUsage node amount)).Offers := by
  refine ⟨(controller.registryRuns_tellRegistry _).trans offers.runs, fun operator => ?_⟩
  obtain ⟨record, member, serves⟩ := offers.available operator
  unfold Controller.tellRegistry
  rw [if_pos offers.runs]
  refine ⟨_, List.mem_map_of_mem member, ?_⟩
  dsimp only
  split
  · exact serves
  · exact serves

theorem Controller.Offers.answer (computes : link.Computes) (offers : controller.Offers)
    {query : Query} (isStep : query.IsStep) :
    ∃ found after, controller.answer link query = (.ok found, after) ∧
      query.IsComputed found ∧ after.Offers := by
  cases query with
  | pick operator =>
      refine ⟨controller.registry.pick? operator, controller, ?_, ?_, offers⟩
      · simp only [Controller.answer, Controller.askRegistry, if_pos offers.runs]
      · exact (Registry.isSome_pick?_iff _ _).mpr (offers.available operator)
  | compute node left operator right =>
      exact ⟨_, _, rfl, computes _ node left operator right, offers.runs, offers.available⟩
  | addUsage node amount => exact ⟨(), _, rfl, trivial, offers.addUsage node amount⟩
  | _ => exact isStep.elim

end Offering

/-! ## Exact values -/

/-- The evaluation of an expression is the exact one, as far as words can hold it. -/
structure IsExact (expression : Expression) (evaluation : Evaluation) : Prop where
  /-- Every step follows the rules for words. -/
  leads : LeadsTo expression.first expression.steps evaluation.result evaluation.attempted
  /-- Overflows in between do not matter without divisions. -/
  residue : (∀ step ∈ expression.steps, step.1 ≠ .div) →
    ∃ number : Int64,
      number.toInt ≡ expression.exactValue [ZMOD 2 ^ 64] ∧
      (∀ other : Int64, other.toInt ≡ expression.exactValue [ZMOD 2 ^ 64] → other = number) ∧
      evaluation.result.text = String.ofList (numeral number.toInt)
  /-- Only a division by zero keeps a value from being reached, after all steps. -/
  value : (Operator.div, (0 : Int64)) ∉ expression.steps →
    evaluation.attempted = expression.subOperations ∧
      ∃ number : Int64, evaluation.result.text = String.ofList (numeral number.toInt)
  /-- The first division by zero is the last step. -/
  divided : ∀ front rest, expression.steps = front ++ (.div, 0) :: rest →
    (Operator.div, (0 : Int64)) ∉ front →
    evaluation.attempted = front.length + 1 ∧
      evaluation.result.text = "Error: division by 0"

theorem isExact_of_leadsTo {expression : Expression} {evaluation : Evaluation}
    (leads : LeadsTo expression.first expression.steps evaluation.result evaluation.attempted) :
    IsExact expression evaluation := by
  refine ⟨leads, ?_, ?_, ?_⟩
  · intro undivided
    obtain ⟨number, reached, same⟩ := leads.modEq_of_noDivision undivided rfl
    refine ⟨number, same, ?_, ?_⟩
    · intro other otherSame
      exact Operator.eq_of_modEq (otherSame.trans same.symm)
    · rw [reached]
      rfl
  · intro nonzero
    obtain ⟨number, reached, all⟩ := leads.value_of_undivided nonzero
    refine ⟨all, number, ?_⟩
    rw [reached]
    rfl
  · intro front rest split first
    rw [split] at leads
    obtain ⟨divided, most⟩ := leads.divided_of_first first
    refine ⟨most, ?_⟩
    rw [divided]
    exact String.ofList_toList

/-- Evaluation is exact, as far as words can hold a value, whatever else happens to the
registry and the nodes, so long as every operator finds a node and every node answers with
the value of the operator. A controller with such nodes brings it to its end. -/
theorem evaluations_are_exact {σ : Type} {link : Link σ} (computes : link.Computes)
    {controller : Controller σ} (offers : controller.Offers) (expression : Expression) :
    (evaluate expression).Meets Query.IsStep Query.IsComputed (IsExact expression) ∧
    ∃ evaluation after,
      controller.run link (evaluate expression) = (.ok evaluation, after) ∧
      IsExact expression evaluation := by
  have meets : (evaluate expression).Meets Query.IsStep Query.IsComputed
      (IsExact expression) := by
    refine (evaluateFrom_meets 0 expression.first expression.steps).imp fun evaluation => ?_
    rintro ⟨count, total, leads⟩
    apply isExact_of_leadsTo
    rw [total, Nat.zero_add]
    exact leads
  refine ⟨meets, ?_⟩
  exact Controller.run_meets (fun controller query offers => offers.answer computes) meets offers

/-- A controller whose one node has every operator. -/
def oneForAll : Controller Unit where
  ceiling := 100
  registry := ⟨[⟨.v4 .loopback, 7001, .all, 0, true, 0⟩]⟩
  registryRuns := true
  accounts := .ofUsers []
  accountsRun := true
  statistics := .empty
  receivers := .empty
  nodes := ()

/-- A product of a difference that overflows. -/
def overflowing : Expression := ⟨Int64.minValue, [(.sub, 1), (.mul, 3)]⟩

theorem evaluations_are_exact_overflowing :
    (Link.inPlace (σ := Unit)).Computes ∧ oneForAll.Offers ∧
    overflowing.exactValue = -27670116110564327427 ∧
    ∃ evaluation after,
      oneForAll.run .inPlace (evaluate overflowing) = (.ok evaluation, after) ∧
      evaluation.result.text = "9223372036854775805" := by
  have computes : (Link.inPlace (σ := Unit)).Computes := fun _ _ _ _ _ => rfl
  have offers : oneForAll.Offers := by
    refine ⟨rfl, fun operator => ⟨_, List.mem_singleton_self _, ?_⟩⟩
    cases operator <;> decide
  refine ⟨computes, offers, by decide, ?_⟩
  obtain ⟨-, evaluation, after, ran, isExact⟩ :=
    evaluations_are_exact computes offers overflowing
  obtain ⟨number, -, unique, text⟩ := isExact.residue (by decide)
  have residue : (9223372036854775805 : Int64).toInt ≡ overflowing.exactValue [ZMOD 2 ^ 64] := by
    decide
  refine ⟨evaluation, after, ran, ?_⟩
  rw [text, ← unique _ residue]
  decide +kernel

end ArithmeticCloud.Service
