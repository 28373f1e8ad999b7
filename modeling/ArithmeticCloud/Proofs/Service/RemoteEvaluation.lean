import ArithmeticCloud.Proofs.Node.Histories
import ArithmeticCloud.Proofs.Service.Calls

/-!
Contract: evaluating over connections to nodes is evaluating in place.

Owns:
- a sequence of evaluations and what each leaves behind;
- the link that asks nodes at the times of a clock, and the histories that the nodes
  have after some calls;
- that this link and the one that computes in place give the same results, registries
  and calls while every node that is online can be reached.

Does not own: nodes that fail.
-/

namespace ArithmeticCloud.Service

open Fleet Network Node Transport Wire

/-! ## One sub-operation -/

/-- A node that serves answers with the value that the operator has. -/
theorem compute_overConnections {nodes : Nodes} {node : Endpoint} {server : Server}
    (serves : nodes.get node = .serving server) (now left : Int64) (operator : Operator)
    (right : Int64) :
    (Link.overConnections now).compute nodes node left operator right =
      (.ok (operator.apply left right),
        (nodes.ask now node (.compute left operator right)).2) := by
  have stream : (nodes.ask now node (.compute left operator right)).1 =
      .ok (streamOf [String.ofList (operator.apply left right).text]) := by
    simp only [Nodes.ask, serves, Remote.ask, Server.handleLine_encode]
    rfl
  have read : readReply (String.ofList node.text)
      (streamOf [String.ofList (operator.apply left right).text]) =
        .ok (operator.apply left right) := by
    apply readAnswer_streamOf "compute" (String.ofList node.text) (Reply.isLine_text _)
    rw [String.toList_ofList]
    exact Reply.parse?_text _
  simp only [Link.overConnections]
  rcases asked : nodes.ask now node (.compute left operator right) with ⟨answer, after⟩
  rw [asked] at stream
  obtain rfl : answer = _ := stream
  simp only [read]

/-! ## Nodes and a clock -/

/-- Asks nodes over connections. The state counts the sub-operations, and a clock says at
which time each is handled. -/
def Link.overTime (clock : Nat → Int64) : Link (Nodes × Nat) where
  compute state node left operator right :=
    let (answer, nodes) :=
      (Link.overConnections (clock state.2)).compute state.1 node left operator right
    (answer, nodes, state.2 + 1)

/-- What a node records of some calls: those that were handed to it, in their order, each
with the value that the operator has. -/
def recordsAt (clock : Nat → Int64) (endpoint : Endpoint) (calls : List Call) :
    List ComputeRecord :=
  (calls.zipIdx.filter fun entry => entry.1.node = endpoint).map fun entry =>
    ⟨clock entry.2, entry.1.left, entry.1.operator, entry.1.right,
      entry.1.operator.apply entry.1.left entry.1.right⟩

theorem recordsAt_append (clock : Nat → Int64) (endpoint : Endpoint) (calls : List Call)
    (call : Call) :
    recordsAt clock endpoint (calls ++ [call]) =
      recordsAt clock endpoint calls ++
        if call.node = endpoint then
          [⟨clock calls.length, call.left, call.operator, call.right,
            call.operator.apply call.left call.right⟩]
        else [] := by
  unfold recordsAt
  rw [List.zipIdx_append, List.filter_append, List.map_append]
  by_cases here : call.node = endpoint
  · simp [here]
  · simp [here]

/-- The nodes after some calls: every sub-operation was counted, and the nodes have
recorded those handed to them and nothing else. -/
structure Computed (clock : Nat → Int64) (start : Nodes) (calls : List Call)
    (state : Nodes × Nat) : Prop where
  count : state.2 = calls.length
  nodes : ∀ endpoint,
    state.1.get endpoint = (start.get endpoint).extend (recordsAt clock endpoint calls)

section Computing

variable {clock : Nat → Int64} {start : Nodes} {calls : List Call} {state : Nodes × Nat}

theorem Computed.nil (clock : Nat → Int64) (start : Nodes) :
    Computed clock start [] (start, 0) :=
  ⟨rfl, fun endpoint => (Remote.extend_nil (start.get endpoint)).symm⟩

/-- A call to a node that serves is answered with the value, and recorded there. -/
theorem Computed.compute (computed : Computed clock start calls state) {node : Endpoint}
    {server : Server} (serves : start.get node = .serving server) (left : Int64)
    (operator : Operator) (right : Int64) :
    ∃ after,
      (Link.overTime clock).compute state node left operator right =
        (.ok (operator.apply left right), after) ∧
      Computed clock start
        (calls ++ [⟨node, left, operator, right, .ok (operator.apply left right)⟩]) after := by
  rcases state with ⟨nodes, count⟩
  obtain rfl : count = calls.length := computed.count
  have stillServes := computed.nodes node
  rw [serves] at stillServes
  refine ⟨((nodes.ask (clock calls.length) node (.compute left operator right)).2,
    calls.length + 1), ?_, ?_, ?_⟩
  · simp only [Link.overTime, compute_overConnections stillServes]
  · rw [List.length_append, List.length_singleton]
  · intro endpoint
    rw [Nodes.get_ask_compute, recordsAt_append, Remote.extend_append, ← computed.nodes endpoint]

end Computing

/-! ## One evaluation -/

/-- Every node that is online can be reached and serves. -/
def Reached (registry : Registry) (nodes : Nodes) : Prop :=
  ∀ record ∈ registry.records, record.online = true →
    ∃ server, nodes.get record.endpoint = .serving server

/-- A node that is picked after some calls was online before them. -/
theorem Reached.serves {registry : Registry} {nodes : Nodes} (reached : Reached registry nodes)
    {calls : List Call} {operator : Operator} {node : Endpoint}
    (picked : (registryAfter registry calls).pick? operator = some node) :
    ∃ server, nodes.get node = .serving server := by
  obtain ⟨earlier, after, later, whole, rfl, serves, -, -⟩ :=
    (Registry.pick?_eq_some_iff _ _ _).mp picked
  have member : after ∈ (registryAfter registry calls).records := by
    rw [whole]
    exact List.mem_append_right earlier List.mem_cons_self
  obtain ⟨record, known, rfl⟩ := List.mem_map.mp member
  have online : record.online = true := by
    unfold NodeRecord.serves recordAfter at serves
    simp only [Bool.and_eq_true] at serves
    exact serves.1.1
  exact reached record known online

section Evaluating

variable {clock : Nat → Int64} {start : Nodes} {registry : Registry} {calls : List Call}
  {state : Nodes × Nat} {remote : Controller ((Nodes × Nat) × List Call)}
  {inPlace : Controller (Unit × List Call)}

/-- The two folds make the same calls, with the same answers. -/
theorem run_evaluateFrom_agree (reached : Reached registry start)
    (computed : Computed clock start calls state) (remoteRuns : remote.registryRuns = true)
    (inPlaceRuns : inPlace.registryRuns = true) (attempted : Nat) (value : Int64)
    (steps : List (Operator × Int64)) :
    ∃ evaluation more after,
      Controller.run (Link.overTime clock).recording (evaluateFrom attempted value steps)
          (remote.past registry calls state) =
        (.ok evaluation, remote.past registry (calls ++ more) after) ∧
      Controller.run Link.inPlace.recording (evaluateFrom attempted value steps)
          (inPlace.past registry calls ()) =
        (.ok evaluation, inPlace.past registry (calls ++ more) ()) ∧
      evaluation.attempted = attempted + more.length ∧
      (∀ call ∈ more, call.answer = .ok (call.operator.apply call.left call.right)) ∧
      Computed clock start (calls ++ more) after := by
  induction steps generalizing attempted value calls state with
  | nil =>
      refine ⟨⟨.value value, attempted⟩, [], state, ?_⟩
      rw [List.append_nil]
      exact ⟨rfl, rfl, rfl, List.forall_mem_nil _, computed⟩
  | cons step others inductionHypothesis =>
      rcases step with ⟨operator, operand⟩
      simp only [evaluateFrom, Process.query, Process.ask_bind, Process.done_bind]
      rw [run_pick _ registry calls state remoteRuns, run_pick _ registry calls () inPlaceRuns]
      cases picked : (registryAfter registry calls).pick? operator with
      | none =>
          refine ⟨⟨.noNodes, attempted⟩, [], state, ?_⟩
          rw [List.append_nil]
          exact ⟨rfl, rfl, rfl, List.forall_mem_nil _, computed⟩
      | some node =>
          obtain ⟨server, serves⟩ := reached.serves picked
          obtain ⟨after, asked, recorded⟩ := computed.compute serves value operator operand
          have placed : (Link.inPlace (σ := Unit)).compute () node value operator operand =
              (.ok (operator.apply value operand), ()) := rfl
          cases result : operator.apply value operand with
          | value number =>
              rw [result] at asked recorded placed
              dsimp only
              rw [run_value _ registry calls state remoteRuns asked rfl,
                run_value _ registry calls () inPlaceRuns placed rfl]
              obtain ⟨evaluation, more, last, ran, ranInPlace, count, answered, computedMore⟩ :=
                inductionHypothesis recorded (attempted + 1) number
              rw [List.append_assoc] at ran ranInPlace computedMore
              refine ⟨evaluation, _, last, ran, ranInPlace, ?_, ?_, computedMore⟩
              · rw [count, List.length_append, List.length_singleton]
                omega
              · exact List.forall_mem_cons.mpr ⟨congrArg Except.ok result.symm, answered⟩
          | divisionByZero =>
              rw [result] at asked recorded placed
              refine ⟨⟨.divisionByZero, attempted + 1⟩, _, after,
                run_divided _ registry calls state asked rfl,
                run_divided _ registry calls () placed rfl, rfl, ?_, recorded⟩
              exact List.forall_mem_singleton.mpr (congrArg Except.ok result.symm)

/-! ## Several evaluations -/

/-- Evaluates expressions one after the other. Gives what each came to and the registry
that it left behind. -/
def Controller.evaluateAll {σ : Type} (link : Link σ) :
    List Expression → Controller σ → List (Except Fault Evaluation × Registry) × Controller σ
  | [], controller => ([], controller)
  | expression :: others, controller =>
      let (outcome, after) := Controller.run link (evaluate expression) controller
      let (later, final) := evaluateAll link others after
      ((outcome, after.registry) :: later, final)

theorem evaluateAll_forget {σ : Type} (link : Link σ) (expressions : List Expression)
    (controller : Controller (σ × List Call)) :
    Controller.evaluateAll link expressions controller.forget =
      ((Controller.evaluateAll link.recording expressions controller).1,
        (Controller.evaluateAll link.recording expressions controller).2.forget) := by
  induction expressions generalizing controller with
  | nil => rfl
  | cons expression others inductionHypothesis =>
      simp only [Controller.evaluateAll, run_forget, inductionHypothesis]
      rfl

/-- All evaluations of a sequence came to an end, with these results. -/
def completed (results : List (Evaluation × Registry)) :
    List (Except Fault Evaluation × Registry) :=
  results.map fun result => (.ok result.1, result.2)

theorem evaluateAll_agree (reached : Reached registry start)
    (computed : Computed clock start calls state) (remoteRuns : remote.registryRuns = true)
    (inPlaceRuns : inPlace.registryRuns = true) (expressions : List Expression) :
    ∃ results more after,
      Controller.evaluateAll (Link.overTime clock).recording expressions
          (remote.past registry calls state) =
        (completed results, remote.past registry (calls ++ more) after) ∧
      Controller.evaluateAll Link.inPlace.recording expressions
          (inPlace.past registry calls ()) =
        (completed results, inPlace.past registry (calls ++ more) ()) ∧
      (results.map fun result => result.1.attempted).sum = more.length ∧
      (∀ call ∈ more, call.answer = .ok (call.operator.apply call.left call.right)) ∧
      Computed clock start (calls ++ more) after := by
  induction expressions generalizing calls state with
  | nil =>
      refine ⟨[], [], state, ?_⟩
      rw [List.append_nil]
      exact ⟨rfl, rfl, rfl, List.forall_mem_nil _, computed⟩
  | cons expression others inductionHypothesis =>
      obtain ⟨evaluation, made, between, ran, ranInPlace, count, answered, computedMade⟩ :=
        run_evaluateFrom_agree reached computed remoteRuns inPlaceRuns 0 expression.first
          expression.steps
      obtain ⟨results, more, after, later, laterInPlace, counts, answeredMore, computedMore⟩ :=
        inductionHypothesis computedMade
      rw [List.append_assoc] at later laterInPlace computedMore
      refine ⟨(evaluation, registryAfter registry (calls ++ made)) :: results, made ++ more, after,
        ?_, ?_, ?_, List.forall_mem_append.mpr ⟨answered, answeredMore⟩, computedMore⟩
      · simp only [Controller.evaluateAll, evaluate, ran, later]
        rfl
      · simp only [Controller.evaluateAll, evaluate, ranInPlace, laterInPlace]
        rfl
      · rw [List.map_cons, List.sum_cons, counts, count, List.length_append, Nat.zero_add]

end Evaluating

/-- The same controller with other nodes. -/
def Controller.withNodes {σ τ : Type} (controller : Controller σ) (nodes : τ) : Controller τ :=
  { controller with nodes := nodes }

/-- Evaluations over connections give the same results, counts and registries as in place
while every node that is online is reached. Every sub-operation is answered with the value
that its operator has, and recorded once, by the node that it was handed to; for this,
requests and answers are read as they were written, and no other message changes a
history. -/
theorem remote_evaluations_agree (controller : Controller Nodes)
    (runs : controller.registryRuns = true)
    (reached : Reached controller.registry controller.nodes) (clock : Nat → Int64)
    (expressions : List Expression) :
    (∃ results calls after,
      Controller.evaluateAll (Link.overTime clock) expressions
          (controller.withNodes (controller.nodes, 0)) =
        (completed results, { controller with
          registry := registryAfter controller.registry calls
          nodes := after }) ∧
      Controller.evaluateAll Link.inPlace expressions (controller.withNodes ()) =
        (completed results, { controller with
          registry := registryAfter controller.registry calls
          nodes := () }) ∧
      (Controller.evaluateAll (Link.overTime clock).recording expressions
        (controller.withNodes (controller.nodes, 0)).record).2.nodes.2 = calls ∧
      (Controller.evaluateAll Link.inPlace.recording expressions
        (controller.withNodes ()).record).2.nodes.2 = calls ∧
      (results.map fun result => result.1.attempted).sum = calls.length ∧
      (∀ call ∈ calls, call.answer = .ok (call.operator.apply call.left call.right)) ∧
      ∀ endpoint, after.1.get endpoint =
        (controller.nodes.get endpoint).extend (recordsAt clock endpoint calls)) ∧
    (∀ (server : Server) (now left : Int64) (operator : Operator) (right : Int64),
      NodeRequest.decode? (NodeRequest.compute left operator right).encode =
        some (.compute left operator right) ∧
      server.serveStream now (streamOf [(NodeRequest.compute left operator right).encode]) =
        ([String.ofList (operator.apply left right).text], { server with
          history := server.history.push
            ⟨now, left, operator, right, operator.apply left right⟩ })) ∧
    (∀ reply : Reply, Reply.parse? reply.text = some reply) ∧
    ∀ (server : Server) (now : Int64) (conversation : List Bytes),
      (Server.serve now server conversation).2.history =
        server.history.extend (recordsOf now conversation) := by
  have starts : (controller.withNodes (controller.nodes, 0)).record.past controller.registry []
        (controller.nodes, 0) = (controller.withNodes (controller.nodes, 0)).record ∧
      (controller.withNodes ()).record.past controller.registry [] () =
        (controller.withNodes ()).record := by
    simp only [Controller.past, registryAfter_nil]
    exact ⟨rfl, rfl⟩
  obtain ⟨results, calls, after, remote, inPlace, counts, answered, computed⟩ :=
    evaluateAll_agree reached (Computed.nil clock controller.nodes)
      (show (controller.withNodes (controller.nodes, 0)).record.registryRuns = true from runs)
      (show (controller.withNodes ()).record.registryRuns = true from runs) expressions
  rw [starts.1, List.nil_append] at remote
  rw [starts.2, List.nil_append] at inPlace
  have remotePlain := evaluateAll_forget (Link.overTime clock) expressions
    (controller.withNodes (controller.nodes, 0)).record
  have inPlacePlain := evaluateAll_forget Link.inPlace expressions
    (controller.withNodes ()).record
  rw [remote] at remotePlain
  rw [inPlace] at inPlacePlain
  refine ⟨⟨results, calls, after, remotePlain, inPlacePlain, ?_, ?_, counts, answered,
    computed.nodes⟩, ?_, Reply.parse?_text, Server.history_serve⟩
  · rw [remote]
    rfl
  · rw [inPlace]
    rfl
  · intro server now left operator right
    exact ⟨NodeRequest.decode?_encode _, server.serveStream_encode now _⟩

/-- A node for sums and differences, and a node for products and quotients. -/
def twoServing : Controller Nodes where
  ceiling := 100
  registry := ⟨[⟨.v4 .loopback, 7001, .ofList [.add, .sub], 0, true, 0⟩,
    ⟨.v4 .loopback, 7002, .ofList [.mul, .div], 0, true, 0⟩]⟩
  registryRuns := true
  accounts := .ofUsers []
  accountsRun := true
  statistics := .empty
  receivers := .empty
  nodes := ⟨[(.v4 .loopback 7001, .serving (.initial 0 1)),
    (.v4 .loopback 7002, .serving (.initial 0 8))]⟩

/-- The least integer, negative values and a division by zero. -/
def extremes : List Expression :=
  [⟨Int64.minValue, [(.sub, 1), (.div, -1)]⟩, ⟨-7, [(.div, 2), (.add, 5), (.div, 0), (.add, 1)]⟩]

theorem remote_evaluations_agree_extremes :
    twoServing.registryRuns = true ∧ Reached twoServing.registry twoServing.nodes ∧
    (Controller.evaluateAll (Link.overTime fun index => 100 + Int64.ofNat index) extremes
        (twoServing.withNodes (twoServing.nodes, 0))).1.map
      (fun outcome => outcome.1.toOption.map fun evaluation =>
        (evaluation.result.text, evaluation.attempted)) =
      [some ("-9223372036854775807", 2), some ("Error: division by 0", 3)] ∧
    ((Controller.evaluateAll (Link.overTime fun index => 100 + Int64.ofNat index) extremes
        (twoServing.withNodes (twoServing.nodes, 0))).2.nodes.1.get (.v4 .loopback 7002)).server?.map
      (fun server => server.history.records.map ComputeRecord.text) =
      some ["101 9223372036854775807 / -1 = -9223372036854775807".toList,
        "102 -7 / 2 = -3".toList, "104 2 / 0 = Error: division by 0".toList] := by
  have reached : Reached twoServing.registry twoServing.nodes := by
    intro record member _
    simp only [twoServing, List.mem_cons, List.not_mem_nil, or_false] at member
    rcases member with rfl | rfl
    · exact ⟨.initial 0 1, by decide⟩
    · exact ⟨.initial 0 8, by decide⟩
  obtain ⟨⟨results, calls, after, remote, inPlace, -, recorded, -, -, histories⟩, -⟩ :=
    remote_evaluations_agree twoServing rfl reached (fun index => 100 + Int64.ofNat index) extremes
  refine ⟨rfl, reached, ?_, ?_⟩
  · have same := congrArg Prod.fst remote
    have sameInPlace := congrArg Prod.fst inPlace
    rw [same, ← sameInPlace]
    decide +kernel
  · rw [remote]
    dsimp only
    rw [histories, ← recorded]
    decide +kernel

end ArithmeticCloud.Service
