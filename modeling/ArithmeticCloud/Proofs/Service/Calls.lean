import ArithmeticCloud.Proofs.Fleet.Selection
import ArithmeticCloud.Proofs.Text.Numerals
import ArithmeticCloud.Service.Evaluation
import ArithmeticCloud.Service.NodeLink

/-!
Contract: an evaluation that runs with nothing in between, call by call.

Owns:
- the calls of a run, which a link can keep on record without changing the run;
- the registry after some calls: usage grows with the digits of the values that a
  node returned, and a node that failed is offline;
- what each call has to be, given the calls before it, and how the calls end;
- that every evaluation makes these calls and ends so, whatever the link answers.

Does not own: the charge, and registries that others change in between.
-/

namespace ArithmeticCloud.Service

open Billing Fleet Network Text

/-! ## Calls -/

/-- A sub-operation handed to a node, with what came back. -/
structure Call where
  node : Endpoint
  left : Int64
  operator : Operator
  right : Int64
  answer : Except Fault Reply

namespace Call

def value? (call : Call) : Option Int64 :=
  match call.answer with
  | .ok (.value number) => some number
  | _ => none

/-- The digits that came back. -/
def digitCount (call : Call) : Nat :=
  match call.answer with
  | .ok reply => reply.digitCount
  | .error _ => 0

def failed (call : Call) : Bool :=
  match call.answer with
  | .ok _ => false
  | .error _ => true

end Call

/-- The value so far: that of the last call, or the first operand. -/
def carried (first : Int64) (calls : List Call) : Int64 :=
  (calls.getLast?.bind Call.value?).getD first

theorem carried_append_value {call : Call} {number : Int64}
    (returned : call.answer = .ok (.value number)) (first : Int64) (made : List Call) :
    carried first (made ++ [call]) = number := by
  simp only [carried, List.getLast?_concat, Option.bind_some, Call.value?, returned,
    Option.getD_some]

/-! ## The registry after some calls -/

/-- The digits that a node has returned. -/
def digitsFrom (node : Endpoint) (calls : List Call) : Nat :=
  ((calls.filter (·.node = node)).map Call.digitCount).sum

/-- A node's record after some calls, to it or to others. -/
def recordAfter (calls : List Call) (record : NodeRecord) : NodeRecord :=
  { record with
    usage := UInt64.ofNat
      (min (record.usage.toNat + 50 * digitsFrom record.endpoint calls) (UInt64.size - 1))
    online := record.online &&
      !calls.any fun call => call.node = record.endpoint && call.failed }

def registryAfter (registry : Registry) (calls : List Call) : Registry :=
  ⟨registry.records.map (recordAfter calls)⟩

theorem toNat_ofNat_min (total : Nat) :
    (UInt64.ofNat (min total (UInt64.size - 1))).toNat = min total (UInt64.size - 1) := by
  rw [UInt64.toNat_ofNat']
  exact Nat.mod_eq_of_lt (by simp only [UInt64.size]; omega)

theorem recordAfter_append (earlier later : List Call) (record : NodeRecord) :
    recordAfter (earlier ++ later) record = recordAfter later (recordAfter earlier record) := by
  have sum : digitsFrom record.endpoint (earlier ++ later) =
      digitsFrom record.endpoint earlier + digitsFrom record.endpoint later := by
    simp only [digitsFrom, List.filter_append, List.map_append, List.sum_append]
  have usage : min (record.usage.toNat + 50 * digitsFrom record.endpoint (earlier ++ later))
      (UInt64.size - 1) =
        min (min (record.usage.toNat + 50 * digitsFrom record.endpoint earlier)
          (UInt64.size - 1) + 50 * digitsFrom record.endpoint later) (UInt64.size - 1) := by
    rw [sum]
    omega
  have same : (recordAfter earlier record).endpoint = record.endpoint := rfl
  unfold recordAfter at same ⊢
  simp only [same, toNat_ofNat_min, usage, List.any_append, Bool.not_or, Bool.and_assoc]

theorem registryAfter_append (registry : Registry) (earlier later : List Call) :
    registryAfter registry (earlier ++ later) =
      registryAfter (registryAfter registry earlier) later := by
  simp only [registryAfter, List.map_map, Registry.mk.injEq]
  exact List.map_congr_left fun record _ => recordAfter_append earlier later record

theorem recordAfter_of_noDigits {calls : List Call} {record : NodeRecord}
    (noDigits : digitsFrom record.endpoint calls = 0) :
    recordAfter calls record = { record with
      online := record.online &&
        !calls.any fun call => call.node = record.endpoint && call.failed } := by
  have bounded : min record.usage.toNat (UInt64.size - 1) = record.usage.toNat := by
    have below := record.usage.toNat_lt
    simp only [UInt64.size]
    omega
  rw [recordAfter, noDigits, Nat.mul_zero, Nat.add_zero, bounded, UInt64.ofNat_toNat]

/-- Calls that return no digits and do not fail leave a record as it is. -/
theorem recordAfter_of_silent {calls : List Call} {record : NodeRecord}
    (noDigits : digitsFrom record.endpoint calls = 0)
    (noFailure : (calls.any fun call => call.node = record.endpoint && call.failed) = false) :
    recordAfter calls record = record := by
  rw [recordAfter_of_noDigits noDigits, noFailure, Bool.not_false, Bool.and_true]

theorem registryAfter_nil (registry : Registry) : registryAfter registry [] = registry := by
  have same : registry.records.map (recordAfter []) = registry.records :=
    List.map_id'' (fun record => recordAfter_of_silent rfl rfl) _
  rw [registryAfter, same]

/-- A value has at most 19 digits, the least integer included. -/
theorem digitCount_value_le (number : Int64) : (Reply.value number).digitCount ≤ 19 := by
  have least := number.le_toInt
  have greatest := number.toInt_lt
  refine length_digits_le (by decide) ?_
  omega

theorem toNat_usageOf (number : Int64) :
    (usageOf number).toNat = 50 * (Reply.value number).digitCount := by
  have few := digitCount_value_le number
  unfold usageOf
  rw [UInt64.toNat_mul, UInt64.toNat_ofNat']
  simp only [UInt64.reduceToNat]
  omega

section OneCall

variable (registry : Registry) {call : Call}

theorem registryAfter_value {number : Int64} (returned : call.answer = .ok (.value number)) :
    registryAfter registry [call] = registry.addUsage call.node (usageOf number) := by
  simp only [registryAfter, Registry.addUsage, Registry.modify, Registry.mk.injEq]
  refine List.map_congr_left fun record _ => ?_
  by_cases same : record.endpoint = call.node
  · simp [recordAfter, digitsFrom, Call.digitCount, Call.failed, same, returned, saturatingSum,
      toNat_usageOf]
  · rw [if_neg same, recordAfter_of_silent] <;> simp [digitsFrom, Ne.symm same]

theorem registryAfter_divided (divided : call.answer = .ok .divisionByZero) :
    registryAfter registry [call] = registry := by
  have same : registry.records.map (recordAfter [call]) = registry.records := by
    refine List.map_id'' (fun record => recordAfter_of_silent ?_ ?_) _
    · by_cases same : call.node = record.endpoint <;>
        simp [digitsFrom, Call.digitCount, same, divided, Reply.digitCount]
    · simp [Call.failed, divided]
  rw [registryAfter, same]

theorem registryAfter_failed {fault : Fault} (failed : call.answer = .error fault) :
    registryAfter registry [call] = registry.markOffline call.node := by
  simp only [registryAfter, Registry.markOffline, Registry.modify, Registry.mk.injEq]
  refine List.map_congr_left fun record _ => ?_
  by_cases same : record.endpoint = call.node
  · have noDigits : digitsFrom record.endpoint [call] = 0 := by
      simp [digitsFrom, Call.digitCount, same, failed]
    rw [recordAfter_of_noDigits noDigits, if_pos same]
    simp [Call.failed, same, failed]
  · rw [if_neg same, recordAfter_of_silent] <;> simp [digitsFrom, Ne.symm same]

end OneCall

/-! ## What the calls have to be -/

/-- The call that an evaluation makes next, after those it has made. -/
structure IsNext (registry : Registry) (expression : Expression) (made : List Call)
    (call : Call) : Prop where
  operation : expression.steps[made.length]? = some (call.operator, call.right)
  node : (registryAfter registry made).Prefers call.operator call.node
  left : call.left = carried expression.first made
  /-- Only a value lets the evaluation go on. -/
  answered : ∀ earlier ∈ made, ∃ number, earlier.answer = .ok (.value number)

/-- Every call is the next one after those before it. -/
def Follows (registry : Registry) (expression : Expression) (calls : List Call) : Prop :=
  ∀ made call later, calls = made ++ call :: later → IsNext registry expression made call

/-- How the calls of an evaluation end, and the text that this gives. -/
inductive Concludes (registry : Registry) (expression : Expression) (calls : List Call) :
    String → Prop where
  | value (answered : ∀ call ∈ calls, ∃ number, call.answer = .ok (.value number))
      (complete : calls.length = expression.subOperations) :
      Concludes registry expression calls (String.ofList (ofInt64 (carried expression.first calls)))
  | unserved (answered : ∀ call ∈ calls, ∃ number, call.answer = .ok (.value number))
      (operator : Operator) (operand : Int64)
      (next : expression.steps[calls.length]? = some (operator, operand))
      (unserved : ∀ record ∈ (registryAfter registry calls).records,
        record.serves operator = false) :
      Concludes registry expression calls "No nodes available for at least one operation."
  | divided (made : List Call) (last : Call) (whole : calls = made ++ [last])
      (answer : last.answer = .ok .divisionByZero) :
      Concludes registry expression calls "Error: division by 0"
  | failed (made : List Call) (last : Call) (whole : calls = made ++ [last]) (fault : Fault)
      (answer : last.answer = .error fault) :
      Concludes registry expression calls "No nodes available for at least one operation."

section Following

variable {registry : Registry} {expression : Expression} {made : List Call} {call : Call}

theorem Follows.nil : Follows registry expression [] := by
  intro made call later same
  simp at same

theorem Follows.append (follows : Follows registry expression made)
    (next : IsNext registry expression made call) :
    Follows registry expression (made ++ [call]) := by
  intro earlier other later same
  rcases List.eq_nil_or_concat later with rfl | ⟨front, last, rfl⟩
  · obtain ⟨rfl, one⟩ := List.append_inj' same rfl
    obtain rfl := (List.cons.inj one).1
    exact next
  · rw [List.concat_eq_append, ← List.cons_append, ← List.append_assoc] at same
    exact follows earlier other front (List.append_inj' same rfl).1

end Following

/-! ## Keeping the calls on record -/

section Recording

variable {σ α : Type} (link : Link σ)

/-- The same link, which keeps every call on record. -/
def Link.recording : Link (σ × List Call) where
  compute state node left operator right :=
    let (answer, nodes) := link.compute state.1 node left operator right
    (answer, nodes, state.2 ++ [⟨node, left, operator, right, answer⟩])

/-- The controller without the record. -/
def Controller.forget (controller : Controller (σ × List Call)) : Controller σ :=
  { controller with nodes := controller.nodes.1 }

/-- The controller with no calls on record yet. -/
def Controller.record (controller : Controller σ) : Controller (σ × List Call) :=
  { controller with nodes := (controller.nodes, []) }

theorem forget_record (controller : Controller σ) : controller.record.forget = controller := rfl

theorem forget_answer (controller : Controller (σ × List Call)) (query : Query) :
    controller.forget.answer link query =
      ((controller.answer link.recording query).1,
        (controller.answer link.recording query).2.forget) := by
  rcases controller with ⟨ceiling, registry, registryRuns, accounts, accountsRun, _, _, _⟩
  cases query with
  | login name password => cases accountsRun <;> rfl
  | logout name => cases accountsRun <;> rfl
  | credits name => cases accountsRun <;> rfl
  | adjust name delta =>
      cases accountsRun with
      | false => rfl
      | true =>
          simp only [Controller.answer, Controller.adjust, Controller.forget, if_true]
          rcases accounts.adjust name delta with ⟨balance, due, after⟩
          cases due <;> rfl
  | availableOperators => cases registryRuns <;> rfl
  | pick operator => cases registryRuns <;> rfl
  | addUsage node amount => cases registryRuns <;> rfl
  | markOffline node => cases registryRuns <;> rfl
  | compute node left operator right => rfl
  | count line => rfl

/-- The record changes nothing else. -/
theorem run_forget (process : Process α) (controller : Controller (σ × List Call)) :
    Controller.run link process controller.forget =
      ((Controller.run link.recording process controller).1,
        (Controller.run link.recording process controller).2.forget) := by
  induction process generalizing controller with
  | done result => rfl
  | ask query next inductionHypothesis =>
      simp only [Controller.run, forget_answer]
      rcases controller.answer link.recording query with ⟨answer, after⟩
      cases answer with
      | error fault => rfl
      | ok found => exact inductionHypothesis found after

end Recording

/-! ## Evaluations -/

section Evaluations

variable {σ : Type} (link : Link σ)

/-- A controller whose registry and nodes have come some calls further. -/
def Controller.past (controller : Controller (σ × List Call)) (registry : Registry)
    (calls : List Call) (nodes : σ) : Controller (σ × List Call) :=
  { controller with registry := registryAfter registry calls, nodes := (nodes, calls) }

section Queries

variable {α : Type} {controller : Controller (σ × List Call)} (registry : Registry)
  (calls : List Call) (nodes : σ) {node : Endpoint} {left : Int64} {operator : Operator}
  {right : Int64} {after : σ}

theorem run_divided
    (reached : link.compute nodes node left operator right = (.ok .divisionByZero, after))
    {next : Except Fault Reply → Process α} {result : α}
    (ends : next (.ok .divisionByZero) = .done result) :
    Controller.run link.recording (.ask (.compute node left operator right) next)
        (controller.past registry calls nodes) =
      (.ok result, controller.past registry
        (calls ++ [⟨node, left, operator, right, .ok .divisionByZero⟩]) after) := by
  simp only [Controller.run, Controller.answer, Controller.past, Link.recording, reached, ends,
    registryAfter_append]
  rw [registryAfter_divided (registryAfter registry calls) rfl]

section Running

variable (runs : controller.registryRuns = true)
include runs

theorem run_pick (operator : Operator) (next : Option Endpoint → Process α) :
    Controller.run link.recording (.ask (.pick operator) next)
        (controller.past registry calls nodes) =
      Controller.run link.recording (next ((registryAfter registry calls).pick? operator))
        (controller.past registry calls nodes) := by
  simp only [Controller.run, Controller.answer, Controller.askRegistry, Controller.past,
    if_pos runs]

/-- A value is returned, and the node's usage grows before the fold goes on. -/
theorem run_value {number : Int64}
    (reached : link.compute nodes node left operator right = (.ok (.value number), after))
    {next : Except Fault Reply → Process α} {rest : Process α}
    (goesOn : next (.ok (.value number)) = .ask (.addUsage node (usageOf number)) fun _ => rest) :
    Controller.run link.recording (.ask (.compute node left operator right) next)
        (controller.past registry calls nodes) =
      Controller.run link.recording rest (controller.past registry
        (calls ++ [⟨node, left, operator, right, .ok (.value number)⟩]) after) := by
  simp only [Controller.run, Controller.answer, Controller.past, Link.recording, reached, goesOn,
    Controller.tellRegistry, if_pos runs, registryAfter_append]
  rw [registryAfter_value (registryAfter registry calls) rfl]

/-- A node fails and is offline when the fold ends. -/
theorem run_failed {fault : Fault}
    (reached : link.compute nodes node left operator right = (.error fault, after))
    {next : Except Fault Reply → Process α} {result : α}
    (ends : next (.error fault) = .ask (.markOffline node) fun _ => .done result) :
    Controller.run link.recording (.ask (.compute node left operator right) next)
        (controller.past registry calls nodes) =
      (.ok result, controller.past registry
        (calls ++ [⟨node, left, operator, right, .error fault⟩]) after) := by
  simp only [Controller.run, Controller.answer, Controller.past, Link.recording, reached, ends,
    Controller.tellRegistry, if_pos runs, registryAfter_append]
  rw [registryAfter_failed (registryAfter registry calls) rfl]

end Running

end Queries

variable {registry : Registry} {expression : Expression}

/-- A fold that has made some calls, all answered with values, goes on to an end
that the reference allows. -/
theorem run_evaluateFrom {made : List Call} (follows : Follows registry expression made)
    (answered : ∀ call ∈ made, ∃ number, call.answer = .ok (.value number))
    (rest : List (Operator × Int64))
    (whole : expression.steps = (made.map fun call => (call.operator, call.right)) ++ rest)
    {controller : Controller (σ × List Call)} (runs : controller.registryRuns = true)
    (nodes : σ) :
    ∃ evaluation calls last,
      Controller.run link.recording
          (evaluateFrom made.length (carried expression.first made) rest)
          (controller.past registry made nodes) =
        (.ok evaluation, controller.past registry calls last) ∧
      Follows registry expression calls ∧
      Concludes registry expression calls evaluation.result.text ∧
      evaluation.attempted = calls.length := by
  induction rest generalizing made nodes with
  | nil =>
      refine ⟨_, made, nodes, rfl, follows, .value answered ?_, rfl⟩
      rw [Expression.subOperations, whole, List.append_nil, List.length_map]
  | cons step others inductionHypothesis =>
      rcases step with ⟨operator, operand⟩
      have next : expression.steps[made.length]? = some (operator, operand) := by
        rw [whole, List.getElem?_append_right (by rw [List.length_map]), List.length_map,
          Nat.sub_self]
        rfl
      simp only [evaluateFrom, Process.query, Process.ask_bind, Process.done_bind]
      rw [run_pick link registry made nodes runs]
      cases picked : (registryAfter registry made).pick? operator with
      | none =>
          exact ⟨_, made, nodes, rfl, follows,
            .unserved answered operator operand next ((Registry.pick?_eq_none_iff _ _).mp picked),
            rfl⟩
      | some node =>
          have nextCall (reply : Except Fault Reply) : Follows registry expression
              (made ++ [⟨node, carried expression.first made, operator, operand, reply⟩]) :=
            follows.append ⟨next, (Registry.pick?_eq_some_iff _ _ _).mp picked, rfl, answered⟩
          have oneMore (call : Call) : (made ++ [call]).length = made.length + 1 := by
            rw [List.length_append, List.length_singleton]
          rcases reached : link.compute nodes node (carried expression.first made) operator operand
            with ⟨reply, after⟩
          match reply with
          | .ok (.value number) =>
              dsimp only
              rw [run_value link registry made nodes runs reached rfl]
              have goesOn := inductionHypothesis (nextCall (.ok (.value number))) ?_
                (by rw [whole, List.map_append, List.append_assoc]; rfl) after
              · rw [oneMore, carried_append_value rfl] at goesOn
                exact goesOn
              · intro other member
                rcases List.mem_append.mp member with earlier | isCall
                · exact answered other earlier
                · exact ⟨number, (List.mem_singleton.mp isCall) ▸ rfl⟩
          | .ok .divisionByZero =>
              exact ⟨_, _, after, run_divided link registry made nodes reached rfl, nextCall _,
                .divided made _ rfl rfl, (oneMore _).symm⟩
          | .error fault =>
              exact ⟨_, _, after, run_failed link registry made nodes runs reached rfl, nextCall _,
                .failed made _ rfl fault rfl, (oneMore _).symm⟩

/-- An evaluation runs as the reference fold, whatever the nodes answer, and the
record of its calls shows it. -/
theorem evaluate_folds (expression : Expression) (controller : Controller σ)
    (runs : controller.registryRuns = true) :
    ∃ evaluation calls nodes,
      Controller.run link.recording (evaluate expression) controller.record =
        (.ok evaluation, controller.record.past controller.registry calls nodes) ∧
      Controller.run link (evaluate expression) controller =
        (.ok evaluation, { controller with
          registry := registryAfter controller.registry calls
          nodes := nodes }) ∧
      Follows controller.registry expression calls ∧
      Concludes controller.registry expression calls evaluation.result.text ∧
      evaluation.attempted = calls.length := by
  have start : controller.record.past controller.registry [] controller.nodes =
      controller.record := by
    rw [Controller.past, registryAfter_nil]
    rfl
  rcases run_evaluateFrom link Follows.nil (List.forall_mem_nil _) expression.steps rfl
    (show controller.record.registryRuns = true from runs) controller.nodes with
    ⟨evaluation, calls, nodes, recorded, follows, concludes, attempted⟩
  have recorded : Controller.run link.recording (evaluate expression) controller.record =
      (.ok evaluation, controller.record.past controller.registry calls nodes) := by
    rw [← start]
    exact recorded
  refine ⟨evaluation, calls, nodes, recorded, ?_, follows, concludes, attempted⟩
  rw [← forget_record controller, run_forget, recorded]
  rfl

end Evaluations

/-- Nodes that answer from a script, whatever they are asked. -/
def Link.scripted : Link (List (Except Fault Reply)) where
  compute script _ _ _ _ := (script.headD (.error (.timeout (.ofSeconds 5))), script.tail)

/-- A controller with two nodes for every operator, of which the second fails. -/
def losingOne : Controller (List (Except Fault Reply)) where
  ceiling := 100
  registry := ⟨[⟨.v4 .loopback, 7001, .all, 0, true, 0⟩, ⟨.v4 .loopback, 7002, .all, 0, true, 0⟩]⟩
  registryRuns := true
  accounts := .ofUsers []
  accountsRun := true
  statistics := .empty
  receivers := .empty
  nodes := [.ok (.value 12), .error (.timeout (.ofSeconds 5))]

theorem evaluate_folds_losingOne :
    losingOne.registryRuns = true ∧
    ∃ calls,
      Follows losingOne.registry ⟨3, [(.mul, 4), (.add, 5), (.sub, 1)]⟩ calls ∧
      Concludes losingOne.registry ⟨3, [(.mul, 4), (.add, 5), (.sub, 1)]⟩ calls noNodesText ∧
      calls.length = 2 ∧
      (registryAfter losingOne.registry calls).records.map
        (fun record => (record.usage, record.online)) = [(100, true), (0, false)] := by
  refine ⟨rfl, ?_⟩
  rcases evaluate_folds .scripted ⟨3, [(.mul, 4), (.add, 5), (.sub, 1)]⟩ losingOne rfl
    with ⟨evaluation, calls, nodes, -, ran, follows, concludes, attempted⟩
  have result := congrArg Prod.fst ran
  have registry := congrArg (fun final => final.2.registry.records.map fun record =>
    (record.usage, record.online)) ran
  have lost : (.ok ⟨.noNodes, 2⟩ : Except Fault Evaluation) = .ok evaluation :=
    Eq.trans (by decide +kernel) result
  obtain rfl := Except.ok.inj lost
  exact ⟨calls, follows, concludes, attempted.symm, registry.symm.trans (by decide +kernel)⟩

end ArithmeticCloud.Service
