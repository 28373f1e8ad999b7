import ArithmeticCloud.Proofs.Service.Traffic
import Mathlib.Data.List.Basic

/-!
Contract: a request that a controller runs with nothing in between is one run of
the traffic.

Owns:
- the events by which one query is made and answered while no mail waits;
- the run of a whole request, which ends where `Controller.run` does and records
  every sub-operation and the response.

Does not own: requests that other steps come in between.
-/

namespace ArithmeticCloud.Service

open Billing Fleet Network

namespace Traffic

/-- One traffic comes from another by some events, and these entries go on record. -/
def Leads (before : Traffic) (record : List Occurrence) (after : Traffic) : Prop :=
  ∃ events, before.run? events = some (after, record)

theorem Leads.refl (traffic : Traffic) : traffic.Leads [] traffic := ⟨[], rfl⟩

theorem Leads.step {before middle after : Traffic} {event : TrafficEvent}
    {occurrences later : List Occurrence} (stepped : before.step? event = some (middle, occurrences))
    (rest : middle.Leads later after) : before.Leads (occurrences ++ later) after := by
  rcases rest with ⟨events, ran⟩
  refine ⟨event :: events, ?_⟩
  simp only [run?, stepped, ran, Option.bind_eq_bind, Option.bind_some, Option.pure_def]

theorem Leads.trans {before middle after : Traffic} {earlier later : List Occurrence}
    (first : before.Leads earlier middle) (second : middle.Leads later after) :
    before.Leads (earlier ++ later) after := by
  rcases first with ⟨events, ran⟩
  induction events generalizing before earlier with
  | nil =>
      rcases Prod.mk.inj (Option.some.inj ran) with ⟨rfl, rfl⟩
      exact second
  | cons event others inductionHypothesis =>
      rcases run?_cons ran with ⟨next, occurrences, rest, stepped, ranOthers, rfl⟩
      rw [List.append_assoc]
      exact .step stepped (inductionHypothesis ranOthers)

/-! ## Steps of one session -/

section Steps

variable {controller : Controller Unit} {accountsMail : List AccountsMail}
  {registryMail : List RegistryMail} {sessions : List Activity} {client : Nat}

theorem goOn_set (traffic : Traffic) (client : Nat) (activity : Activity) (session : Session)
    (line : String) (process : Process (Response × Session)) :
    (traffic.set client activity).goOn client session line process =
      traffic.goOn client session line process := by
  cases process with
  | done result => simp only [goOn, set, List.set_set]
  | ask query next => simp only [goOn, set, List.set_set]

theorem step?_act (inside : client < sessions.length) (inquiry : Inquiry) :
    step? ⟨controller, accountsMail, registryMail, sessions.set client (.due inquiry)⟩
      (.act client) =
        some (act ⟨controller, accountsMail, registryMail, sessions.set client (.due inquiry)⟩
          client inquiry) := by
  simp only [step?, List.getElem?_set_self inside]

/-- A session that has its answer goes on as if it had not waited. -/
theorem leads_resume (inside : client < sessions.length) (inquiry : Inquiry)
    (answer : inquiry.query.Answer) :
    Leads ⟨controller, accountsMail, registryMail,
        sessions.set client (.answered inquiry answer)⟩
      (goOn ⟨controller, accountsMail, registryMail, sessions⟩ client inquiry.session inquiry.line
        (inquiry.next answer)).2
      (goOn ⟨controller, accountsMail, registryMail, sessions⟩ client inquiry.session inquiry.line
        (inquiry.next answer)).1 := by
  have same := goOn_set ⟨controller, accountsMail, registryMail, sessions⟩ client
    (.answered inquiry answer) inquiry.session inquiry.line (inquiry.next answer)
  have resumed : step? ⟨controller, accountsMail, registryMail,
      sessions.set client (.answered inquiry answer)⟩ (.resume client) =
        some (goOn ⟨controller, accountsMail, registryMail, sessions⟩ client inquiry.session
          inquiry.line (inquiry.next answer)) := by
    simp only [step?, List.getElem?_set_self inside]
    exact congrArg some same
  have led := Leads.step resumed (.refl _)
  rw [List.append_nil] at led
  exact led

/-- The question of a session that waits is answered. -/
theorem handleQuestion_sent (inside : client < sessions.length) {inquiry : Inquiry}
    {answer : inquiry.query.Answer} {changed : Controller Unit}
    (answered : controller.answer .inPlace inquiry.query = (.ok answer, changed)) :
    handleQuestion ⟨controller, accountsMail, registryMail, sessions.set client (.sent inquiry)⟩
      client =
        ⟨changed, accountsMail, registryMail, sessions.set client (.answered inquiry answer)⟩ := by
  simp only [handleQuestion, List.getElem?_set_self inside, answered, set, List.set_set]

end Steps

/-! ## One query -/

/-- What goes on record when a session makes a query. -/
def handed (session : Session) : Query → List Occurrence
  | .compute .. => [.dispatched session.user]
  | _ => []

/-- How a session goes on does not depend on the controller and the mail. -/
theorem goOn_with (traffic : Traffic) (controller : Controller Unit)
    (accountsMail : List AccountsMail) (registryMail : List RegistryMail) (client : Nat)
    (session : Session) (line : String) (process : Process (Response × Session)) :
    goOn ⟨controller, accountsMail, registryMail, traffic.sessions⟩ client session line process =
      (⟨controller, accountsMail, registryMail,
        (traffic.goOn client session line process).1.sessions⟩,
        (traffic.goOn client session line process).2) := by
  cases process <;> rfl

theorem handed_eq_replicate (session : Session) (query : Query) :
    ∃ count, handed session query = List.replicate count (.dispatched session.user) := by
  cases query with
  | compute => exact ⟨1, rfl⟩
  | _ => exact ⟨0, rfl⟩

section Query

variable {controller changed : Controller Unit} {sessions : List Activity} {client : Nat}

theorem step?_serveAccounts (inside : client < sessions.length) {inquiry : Inquiry}
    {answer : inquiry.query.Answer}
    (answered : controller.answer .inPlace inquiry.query = (.ok answer, changed)) :
    step? ⟨controller, [.question client], [], sessions.set client (.sent inquiry)⟩
      .serveAccounts =
        some (⟨changed, [], [], sessions.set client (.answered inquiry answer)⟩, []) := by
  simp only [step?, serveAccounts?, handleQuestion_sent inside answered, Option.map_some]

theorem step?_serveRegistry (inside : client < sessions.length) {inquiry : Inquiry}
    {answer : inquiry.query.Answer}
    (answered : controller.answer .inPlace inquiry.query = (.ok answer, changed)) :
    step? ⟨controller, [], [.question client], sessions.set client (.sent inquiry)⟩
      .serveRegistry =
        some (⟨changed, [], [], sessions.set client (.answered inquiry answer)⟩, []) := by
  simp only [step?, serveRegistry?, handleQuestion_sent inside answered, Option.map_some]

/-- A question is answered at once. -/
theorem leads_ask (inside : client < sessions.length) {inquiry : Inquiry}
    {answer : inquiry.query.Answer} {accountsMail : List AccountsMail}
    {registryMail : List RegistryMail} {event : TrafficEvent} {occurrences : List Occurrence}
    (asks : act ⟨controller, [], [], sessions.set client (.due inquiry)⟩ client inquiry =
      (⟨controller, accountsMail, registryMail, sessions.set client (.sent inquiry)⟩,
        occurrences))
    (answers : step? ⟨controller, accountsMail, registryMail,
        sessions.set client (.sent inquiry)⟩ event =
      some (⟨changed, [], [], sessions.set client (.answered inquiry answer)⟩, [])) :
    Leads ⟨controller, [], [], sessions.set client (.due inquiry)⟩
      (occurrences ++ (goOn ⟨changed, [], [], sessions⟩ client inquiry.session inquiry.line
        (inquiry.next answer)).2)
      (goOn ⟨changed, [], [], sessions⟩ client inquiry.session inquiry.line
        (inquiry.next answer)).1 :=
  .step ((step?_act inside inquiry).trans (congrArg some asks))
    (.step answers (leads_resume inside inquiry answer))

/-- A notice is handled as soon as the session that has posted it goes on. -/
theorem leads_post (inside : client < sessions.length) {inquiry : Inquiry}
    {answer : inquiry.query.Answer} {accountsMail : List AccountsMail}
    {registryMail : List RegistryMail} (event : TrafficEvent)
    (posts : act ⟨controller, [], [], sessions.set client (.due inquiry)⟩ client inquiry =
      goOn ⟨controller, accountsMail, registryMail, sessions⟩ client inquiry.session inquiry.line
        (inquiry.next answer))
    (served : ∀ sessions, step? ⟨controller, accountsMail, registryMail, sessions⟩ event =
      some (⟨changed, [], [], sessions⟩, [])) :
    Leads ⟨controller, [], [], sessions.set client (.due inquiry)⟩
      (goOn ⟨changed, [], [], sessions⟩ client inquiry.session inquiry.line
        (inquiry.next answer)).2
      (goOn ⟨changed, [], [], sessions⟩ client inquiry.session inquiry.line
        (inquiry.next answer)).1 := by
  have acted := (step?_act inside inquiry).trans (congrArg some posts)
  rw [goOn_with ⟨changed, [], [], sessions⟩] at acted
  have led := Leads.step acted (.step (served _) (.refl _))
  rw [List.append_nil, List.append_nil] at led
  rw [goOn_with ⟨changed, [], [], sessions⟩ changed [] []]
  exact led

theorem leads_query (link : Link Unit) (inside : client < sessions.length) (session : Session)
    (line : String) {query : Query} {next : query.Answer → Process (Response × Session)}
    {answer : query.Answer} (answered : controller.answer link query = (.ok answer, changed)) :
    Leads ⟨controller, [], [], sessions.set client (.due ⟨session, line, query, next⟩)⟩
      (handed session query ++
        (goOn ⟨changed, [], [], sessions⟩ client session line (next answer)).2)
      (goOn ⟨changed, [], [], sessions⟩ client session line (next answer)).1 := by
  cases query with
  | login name password =>
      refine leads_ask inside ?_ (step?_serveAccounts inside answered)
      simp only [act, set, postAccounts, List.set_set, List.nil_append, handed]
  | credits name =>
      refine leads_ask inside ?_ (step?_serveAccounts inside answered)
      simp only [act, set, postAccounts, List.set_set, List.nil_append, handed]
  | adjust name delta =>
      refine leads_ask inside ?_ (step?_serveAccounts inside answered)
      simp only [act, set, postAccounts, List.set_set, List.nil_append, handed]
  | availableOperators =>
      refine leads_ask inside ?_ (step?_serveRegistry inside answered)
      simp only [act, set, postRegistry, List.set_set, List.nil_append, handed]
  | pick operator =>
      refine leads_ask inside ?_ (step?_serveRegistry inside answered)
      simp only [act, set, postRegistry, List.set_set, List.nil_append, handed]
  | logout name =>
      rcases Prod.mk.inj answered with ⟨-, rfl⟩
      exact leads_post inside .serveAccounts
        (goOn_set ⟨controller, [.logout name], [], sessions⟩ _ _ _ _ _) fun _ => rfl
  | addUsage node amount =>
      rcases Prod.mk.inj answered with ⟨-, rfl⟩
      exact leads_post inside .serveRegistry
        (goOn_set ⟨controller, [], [.addUsage node amount], sessions⟩ _ _ _ _ _) fun _ => rfl
  | markOffline node =>
      rcases Prod.mk.inj answered with ⟨-, rfl⟩
      exact leads_post inside .serveRegistry
        (goOn_set ⟨controller, [], [.markOffline node], sessions⟩ _ _ _ _ _) fun _ => rfl
  | compute node left operator right =>
      obtain ⟨⟨reply, nodes⟩, computed⟩ :
          ∃ result, link.compute controller.nodes node left operator right = result := ⟨_, rfl⟩
      simp only [Controller.answer, computed] at answered
      rcases Prod.mk.inj answered with ⟨-, rfl⟩
      let inquiry : Inquiry := ⟨session, line, .compute node left operator right, next⟩
      have replied : step? ⟨controller, [], [], sessions.set client (.sent inquiry)⟩
          (.reply client answer) =
            some (⟨controller, [], [], sessions.set client (.answered inquiry answer)⟩, []) := by
        simp only [step?, List.getElem?_set_self inside, reply?, inquiry, set, List.set_set,
          Option.map_some]
      refine leads_ask inside ?_ replied
      simp only [act, set, List.set_set, handed]
  | count text =>
      rcases Prod.mk.inj answered with ⟨-, rfl⟩
      let inquiry : Inquiry := ⟨session, line, .count text, next⟩
      let changed := { controller with statistics := controller.statistics.record text }
      have acted : step? ⟨controller, [], [], sessions.set client (.due inquiry)⟩ (.act client) =
          some (goOn ⟨changed, [], [], sessions⟩ client session line (next ())) := by
        rw [step?_act inside inquiry]
        exact congrArg some (goOn_set ⟨changed, [], [], sessions⟩ _ _ _ _ _)
      have led := Leads.step acted (.refl _)
      rw [List.append_nil] at led
      exact led

end Query

/-! ## Whole requests -/

theorem leads_process (link : Link Unit) {sessions : List Activity} {client : Nat}
    (inside : client < sessions.length) (session : Session) (line : String)
    (process : Process (Response × Session)) {controller changed : Controller Unit}
    {response : Response} {after : Session}
    (ran : controller.run link process = (.ok (response, after), changed)) :
    ∃ count later,
      Leads (goOn ⟨controller, [], [], sessions⟩ client session line process).1 later
        ⟨changed, [], [], sessions.set client (.idle after)⟩ ∧
      (goOn ⟨controller, [], [], sessions⟩ client session line process).2 ++ later =
        List.replicate count (.dispatched session.user) ++
          [.responded session.user line response] := by
  induction process generalizing controller with
  | done result =>
      rcases Prod.mk.inj ran with ⟨same, rfl⟩
      obtain rfl := Except.ok.inj same
      exact ⟨0, [], .refl _, rfl⟩
  | ask query next inductionHypothesis =>
      obtain ⟨⟨found, middle⟩, answered⟩ : ∃ result, controller.answer link query = result :=
        ⟨_, rfl⟩
      rw [Controller.run, answered] at ran
      cases found with
      | error fault => cases ran
      | ok answer =>
          rcases inductionHypothesis answer ran with ⟨rest, later, led, whole⟩
          rcases handed_eq_replicate session query with ⟨count, same⟩
          refine ⟨count + rest, _, (leads_query link inside session line answered).trans led, ?_⟩
          rw [goOn, List.nil_append, List.append_assoc, whole, same, List.replicate_add,
            List.append_assoc]

/-- A request that is handled with nothing in between is a run of the traffic. The
sub-operations that it hands to nodes go on record, and then its response. -/
theorem leads_run (link : Link Unit) {controller changed : Controller Unit}
    {sessions : List Activity} {client : Nat} {session after : Session} {line : String}
    {response : Response} (waiting : sessions[client]? = some (.idle session))
    (ran : controller.run link (session.handle line) = (.ok (response, after), changed)) :
    ∃ count, Leads ⟨controller, [], [], sessions⟩
      (List.replicate count (.dispatched session.user) ++
        [.responded session.user line response])
      ⟨changed, [], [], sessions.set client (.idle after)⟩ := by
  have inside := (List.getElem?_eq_some_iff.mp waiting).1
  rcases leads_process link inside session line _ ran with ⟨count, later, led, whole⟩
  have requested : step? ⟨controller, [], [], sessions⟩ (.request client line) =
      some (goOn ⟨controller, [], [], sessions⟩ client session line (session.handle line)) := by
    simp only [step?, waiting]
  refine ⟨count, ?_⟩
  rw [← whole]
  exact .step requested led

end Traffic

end ArithmeticCloud.Service
