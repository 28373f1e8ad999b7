import ArithmeticCloud.Service.NodeLink

/-!
Contract: sessions that share one controller, message by message.

Owns:
- the mailboxes of the accounts and of the registry, each served in order of
  arrival. A session waits for the answer to its question; a notice is posted and
  the session goes on at once;
- what each session is doing, and `Traffic.step?`, one step of a session, of an
  actor or of a node, in whatever order the steps come;
- the record of a run: the sub-operations handed to nodes and the requests
  answered;
- `Traffic.Moves`, all that a step can do, case by case.

Does not own: the queries that a request makes and the effect of each, which are
those of `Session.handle` and `Controller.answer`.
-/

namespace ArithmeticCloud.Service

open Billing Fleet Network

/-- A request that is being handled, at one of its queries. -/
structure Inquiry where
  /-- The session as it was when the request came. -/
  session : Session
  line : String
  query : Query
  next : query.Answer → Process (Response × Session)

inductive Activity where
  | idle (session : Session)
  /-- It is about to make a query. -/
  | due (inquiry : Inquiry)
  /-- The query is with an actor or with a node. -/
  | sent (inquiry : Inquiry)
  /-- The answer is on its way. -/
  | answered (inquiry : Inquiry) (answer : inquiry.query.Answer)
  | ended

def Activity.user : Activity → Option String
  | .idle session => session.user
  | .due inquiry | .sent inquiry | .answered inquiry _ => inquiry.session.user
  | .ended => none

/-- Whether no request is in progress. -/
def Activity.isIdle : Activity → Bool
  | .idle _ | .ended => true
  | _ => false

inductive AccountsMail where
  /-- The open question of the session at a position. -/
  | question (client : Nat)
  | logout (name : String)
deriving DecidableEq, Repr

inductive RegistryMail where
  /-- The open question of the session at a position. -/
  | question (client : Nat)
  | addUsage (node : Endpoint) (amount : UInt64)
  | markOffline (node : Endpoint)
deriving DecidableEq, Repr

/-- A controller with its sessions and the mail that is under way. -/
structure Traffic where
  controller : Controller Unit
  /-- Oldest first. -/
  accountsMail : List AccountsMail
  /-- Oldest first. -/
  registryMail : List RegistryMail
  sessions : List Activity

inductive TrafficEvent where
  | request (client : Nat) (line : String)
  /-- A session that waits ends: the client is gone, the channel has failed or
  the session is stopped. -/
  | leave (client : Nat)
  | act (client : Nat)
  /-- The node that a session asked answers, with anything. -/
  | reply (client : Nat) (answer : Except Fault Reply)
  /-- A session takes the answer to its query and goes on. -/
  | resume (client : Nat)
  | serveAccounts
  | serveRegistry
  /-- The registry handles a request that no session made. -/
  | others (request : RegistryRequest)
deriving Repr

/-- What a run leaves on record. -/
inductive Occurrence where
  /-- A sub-operation was handed to a node for a user. -/
  | dispatched (user : Option String)
  /-- A request of a user was answered. -/
  | responded (user : Option String) (line : String) (response : Response)
deriving DecidableEq, Repr

namespace Traffic

/-- Some sessions without users, and nothing under way. -/
def start (ceiling : UInt64) (users : List User) (registry : Registry) (clients : Nat) :
    Traffic :=
  ⟨{ Controller.start ceiling users () with registry := registry }, [], [],
    List.replicate clients (.idle .anonymous)⟩

def set (traffic : Traffic) (client : Nat) (activity : Activity) : Traffic :=
  { traffic with sessions := traffic.sessions.set client activity }

def postAccounts (traffic : Traffic) (mail : AccountsMail) : Traffic :=
  { traffic with accountsMail := traffic.accountsMail ++ [mail] }

def postRegistry (traffic : Traffic) (mail : RegistryMail) : Traffic :=
  { traffic with registryMail := traffic.registryMail ++ [mail] }

/-! ## Steps of a session -/

/-- A session goes on with what is left of a request. -/
def goOn (traffic : Traffic) (client : Nat) (session : Session) (line : String) :
    Process (Response × Session) → Traffic × List Occurrence
  | .done (response, after) =>
      (traffic.set client (.idle after), [.responded session.user line response])
  | .ask query next => (traffic.set client (.due ⟨session, line, query, next⟩), [])

def part (traffic : Traffic) (client : Nat) (session : Session) : Traffic :=
  let traffic := traffic.set client .ended
  match session.leave with
  | .ask (.logout user) _ => traffic.postAccounts (.logout user)
  | _ => traffic

def act (traffic : Traffic) (client : Nat) : Inquiry → Traffic × List Occurrence
  | ⟨session, line, .logout name, next⟩ =>
      (traffic.postAccounts (.logout name)).goOn client session line (next ())
  | ⟨session, line, .addUsage node amount, next⟩ =>
      (traffic.postRegistry (.addUsage node amount)).goOn client session line (next ())
  | ⟨session, line, .markOffline node, next⟩ =>
      (traffic.postRegistry (.markOffline node)).goOn client session line (next ())
  | ⟨session, line, .count text, next⟩ =>
      let controller := (traffic.controller.answer .inPlace (.count text)).2
      { traffic with controller := controller }.goOn client session line (next ())
  | ⟨session, line, .compute node left operator right, next⟩ =>
      (traffic.set client (.sent ⟨session, line, .compute node left operator right, next⟩),
        [.dispatched session.user])
  | ⟨session, line, .pick operator, next⟩ =>
      ((traffic.set client (.sent ⟨session, line, .pick operator, next⟩)).postRegistry
        (.question client), [])
  | ⟨session, line, .availableOperators, next⟩ =>
      ((traffic.set client (.sent ⟨session, line, .availableOperators, next⟩)).postRegistry
        (.question client), [])
  | inquiry => ((traffic.set client (.sent inquiry)).postAccounts (.question client), [])

/-- A node answers what a session has handed to it. -/
def reply? (traffic : Traffic) (client : Nat) (answer : Except Fault Reply) :
    Inquiry → Option Traffic
  | ⟨session, line, .compute node left operator right, next⟩ =>
      some (traffic.set client
        (.answered ⟨session, line, .compute node left operator right, next⟩ answer))
  | _ => none

/-! ## Steps of an actor -/

/-- An actor handles the question of a session. The session ends if the actor has
stopped. -/
def handleQuestion (traffic : Traffic) (client : Nat) : Traffic :=
  match traffic.sessions[client]? with
  | some (.sent inquiry) =>
      match traffic.controller.answer .inPlace inquiry.query with
      | (.ok answer, controller) =>
          { traffic with controller := controller }.set client (.answered inquiry answer)
      | (.error _, controller) =>
          { traffic with controller := controller }.part client inquiry.session
  | _ => traffic

def serveAccounts? (traffic : Traffic) : Option Traffic :=
  match traffic.accountsMail with
  | [] => none
  | .question client :: rest => some ({ traffic with accountsMail := rest }.handleQuestion client)
  | .logout name :: rest =>
      some { traffic with
        accountsMail := rest
        controller := traffic.controller.tellAccounts (·.logout name) }

def serveRegistry? (traffic : Traffic) : Option Traffic :=
  match traffic.registryMail with
  | [] => none
  | .question client :: rest => some ({ traffic with registryMail := rest }.handleQuestion client)
  | .addUsage node amount :: rest =>
      some { traffic with
        registryMail := rest
        controller := traffic.controller.tellRegistry (·.addUsage node amount) }
  | .markOffline node :: rest =>
      some { traffic with
        registryMail := rest
        controller := traffic.controller.tellRegistry (·.markOffline node) }

/-! ## Runs -/

/-- The traffic after an event and what goes on record, if the event can happen. -/
def step? (traffic : Traffic) : TrafficEvent → Option (Traffic × List Occurrence)
  | .request client line =>
      match traffic.sessions[client]? with
      | some (.idle session) => some (traffic.goOn client session line (session.handle line))
      | _ => none
  | .leave client =>
      match traffic.sessions[client]? with
      | some (.idle session) => some (traffic.part client session, [])
      | _ => none
  | .act client =>
      match traffic.sessions[client]? with
      | some (.due inquiry) => some (traffic.act client inquiry)
      | _ => none
  | .reply client answer =>
      match traffic.sessions[client]? with
      | some (.sent inquiry) => (traffic.reply? client answer inquiry).map (·, [])
      | _ => none
  | .resume client =>
      match traffic.sessions[client]? with
      | some (.answered inquiry answer) =>
          some (traffic.goOn client inquiry.session inquiry.line (inquiry.next answer))
      | _ => none
  | .serveAccounts => traffic.serveAccounts?.map (·, [])
  | .serveRegistry => traffic.serveRegistry?.map (·, [])
  | .others request =>
      some ({ traffic with controller := (traffic.controller.requestRegistry request).2 }, [])

/-- Takes events in turn; gives all that goes on record, in order. Fails at an
event that cannot happen. -/
def run? : Traffic → List TrafficEvent → Option (Traffic × List Occurrence)
  | traffic, [] => some (traffic, [])
  | traffic, event :: others => do
      let (traffic, occurrences) ← traffic.step? event
      let (traffic, later) ← run? traffic others
      return (traffic, occurrences ++ later)

theorem run?_cons {traffic after : Traffic} {event : TrafficEvent} {others : List TrafficEvent}
    {record : List Occurrence} (ran : traffic.run? (event :: others) = some (after, record)) :
    ∃ middle occurrences later, traffic.step? event = some (middle, occurrences) ∧
      middle.run? others = some (after, later) ∧ record = occurrences ++ later := by
  simp only [run?, Option.bind_eq_bind, Option.bind_eq_some_iff, Option.pure_def,
    Option.some.injEq, Prod.mk.injEq] at ran
  rcases ran with ⟨⟨middle, occurrences⟩, stepped, ⟨last, later⟩, rest, rfl, rfl⟩
  exact ⟨middle, occurrences, later, stepped, rest, rfl⟩

/-! ## What a step can do -/

inductive Moves (traffic : Traffic) : TrafficEvent → Traffic → List Occurrence → Prop where
  | request {client : Nat} {session : Session} (line : String)
      (found : traffic.sessions[client]? = some (.idle session)) :
      Moves traffic (.request client line) (traffic.goOn client session line (session.handle line)).1
        (traffic.goOn client session line (session.handle line)).2
  | leave {client : Nat} {session : Session}
      (found : traffic.sessions[client]? = some (.idle session)) :
      Moves traffic (.leave client) (traffic.part client session) []
  | act {client : Nat} {inquiry : Inquiry}
      (found : traffic.sessions[client]? = some (.due inquiry)) :
      Moves traffic (.act client) (traffic.act client inquiry).1 (traffic.act client inquiry).2
  | reply {client : Nat} {session : Session} {line : String} {node : Endpoint} {left : Int64}
      {operator : Operator} {right : Int64}
      {next : Except Fault Reply → Process (Response × Session)}
      (answer : Except Fault Reply)
      (found : traffic.sessions[client]? =
        some (.sent ⟨session, line, .compute node left operator right, next⟩)) :
      Moves traffic (.reply client answer)
        (traffic.set client
          (.answered ⟨session, line, .compute node left operator right, next⟩ answer)) []
  | resume {client : Nat} {inquiry : Inquiry} {answer : inquiry.query.Answer}
      (found : traffic.sessions[client]? = some (.answered inquiry answer)) :
      Moves traffic (.resume client)
        (traffic.goOn client inquiry.session inquiry.line (inquiry.next answer)).1
        (traffic.goOn client inquiry.session inquiry.line (inquiry.next answer)).2
  | accountsQuestion {client : Nat} {rest : List AccountsMail}
      (waiting : traffic.accountsMail = .question client :: rest) :
      Moves traffic .serveAccounts ({ traffic with accountsMail := rest }.handleQuestion client) []
  | logout {name : String} {rest : List AccountsMail}
      (waiting : traffic.accountsMail = .logout name :: rest) :
      Moves traffic .serveAccounts
        { traffic with
          accountsMail := rest
          controller := traffic.controller.tellAccounts (·.logout name) } []
  | registryQuestion {client : Nat} {rest : List RegistryMail}
      (waiting : traffic.registryMail = .question client :: rest) :
      Moves traffic .serveRegistry ({ traffic with registryMail := rest }.handleQuestion client) []
  | addUsage {node : Endpoint} {amount : UInt64} {rest : List RegistryMail}
      (waiting : traffic.registryMail = .addUsage node amount :: rest) :
      Moves traffic .serveRegistry
        { traffic with
          registryMail := rest
          controller := traffic.controller.tellRegistry (·.addUsage node amount) } []
  | markOffline {node : Endpoint} {rest : List RegistryMail}
      (waiting : traffic.registryMail = .markOffline node :: rest) :
      Moves traffic .serveRegistry
        { traffic with
          registryMail := rest
          controller := traffic.controller.tellRegistry (·.markOffline node) } []
  | others (request : RegistryRequest) :
      Moves traffic (.others request)
        { traffic with controller := (traffic.controller.requestRegistry request).2 } []

theorem moves_of_step? {traffic after : Traffic} {event : TrafficEvent}
    {occurrences : List Occurrence} (stepped : traffic.step? event = some (after, occurrences)) :
    traffic.Moves event after occurrences := by
  cases event with
  | request client line =>
      simp only [step?] at stepped
      split at stepped
      · next session found =>
          have moved := Moves.request line found
          rwa [Option.some.inj stepped] at moved
      · cases stepped
  | leave client =>
      simp only [step?] at stepped
      split at stepped
      · next session found =>
          rcases Prod.mk.inj (Option.some.inj stepped) with ⟨rfl, rfl⟩
          exact .leave found
      · cases stepped
  | act client =>
      simp only [step?] at stepped
      split at stepped
      · next inquiry found =>
          have moved := Moves.act found
          rwa [Option.some.inj stepped] at moved
      · cases stepped
  | reply client answer =>
      simp only [step?] at stepped
      split at stepped
      · next inquiry found =>
          rcases Option.map_eq_some_iff.mp stepped with ⟨replied, same, paired⟩
          rcases Prod.mk.inj paired with ⟨rfl, rfl⟩
          rcases inquiry with ⟨session, line, query, next⟩
          cases query with
          | compute node left operator right =>
              obtain rfl := Option.some.inj same
              exact .reply answer found
          | _ => cases same
      · cases stepped
  | resume client =>
      simp only [step?] at stepped
      split at stepped
      · next inquiry answer found =>
          have moved := Moves.resume found
          rwa [Option.some.inj stepped] at moved
      · cases stepped
  | serveAccounts =>
      rcases Option.map_eq_some_iff.mp stepped with ⟨served, same, paired⟩
      rcases Prod.mk.inj paired with ⟨rfl, rfl⟩
      unfold serveAccounts? at same
      split at same
      · cases same
      · next waiting =>
          obtain rfl := Option.some.inj same
          exact .accountsQuestion waiting
      · next waiting =>
          obtain rfl := Option.some.inj same
          exact .logout waiting
  | serveRegistry =>
      rcases Option.map_eq_some_iff.mp stepped with ⟨served, same, paired⟩
      rcases Prod.mk.inj paired with ⟨rfl, rfl⟩
      unfold serveRegistry? at same
      split at same
      · cases same
      · next waiting =>
          obtain rfl := Option.some.inj same
          exact .registryQuestion waiting
      · next waiting =>
          obtain rfl := Option.some.inj same
          exact .addUsage waiting
      · next waiting =>
          obtain rfl := Option.some.inj same
          exact .markOffline waiting
  | others request =>
      rcases Prod.mk.inj (Option.some.inj stepped) with ⟨rfl, rfl⟩
      exact .others request

end Traffic

end ArithmeticCloud.Service
