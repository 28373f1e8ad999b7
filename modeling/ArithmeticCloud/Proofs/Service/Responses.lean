import ArithmeticCloud.Proofs.Node.Histories
import ArithmeticCloud.Proofs.Service.Answers

/-!
Contract: what a session answers to one request line.

Owns:
- `Process.Ends`, what holds of every result that a process can come to, whatever its queries
  are answered with;
- that every response is one line. One of them echoes the client, and what it echoes is a word;
- the first word of a line, as far as a request tells it;
- that a request is handled the same with a carriage return behind it;
- the run of a process in two parts, and that a running controller brings every process to
  its end.

Does not own: the loop that receives requests.
-/

namespace ArithmeticCloud.Service

open Billing Network Text Transport

/-! ## Results of a process -/

/-- Every result that the process can come to is as expected. -/
def Process.Ends {α : Type} (expected : α → Prop) : Process α → Prop
  | .done result => expected result
  | .ask _ next => ∀ answer, (next answer).Ends expected

theorem Process.Ends.bind {α β : Type} {expected : α → Prop} {wanted : β → Prop}
    {process : Process α} {continuation : α → Process β} (first : process.Ends expected)
    (second : ∀ result, expected result → (continuation result).Ends wanted) :
    (process >>= continuation).Ends wanted := by
  induction process with
  | done result => exact second result first
  | ask query next inductionHypothesis =>
      exact fun answer => inductionHypothesis answer (first answer)

theorem Process.Ends.imp {α : Type} {expected wanted : α → Prop} {process : Process α}
    (ends : process.Ends expected) (enough : ∀ result, expected result → wanted result) :
    process.Ends wanted := by
  induction process with
  | done result => exact enough result ends
  | ask query next inductionHypothesis =>
      exact fun answer => inductionHypothesis answer (ends answer)

theorem Process.ends_of_forall {α : Type} {expected : α → Prop} (all : ∀ result, expected result)
    (process : Process α) : process.Ends expected := by
  induction process with
  | done result => exact all result
  | ask query next inductionHypothesis => exact inductionHypothesis

namespace Controller

variable {σ α : Type} {link : Link σ}

section Asking

variable {controller between : Controller σ} {query : Query} {next : query.Answer → Process α}

theorem run_ask_ok {found : query.Answer}
    (answered : controller.answer link query = (.ok found, between)) :
    controller.run link (.ask query next) = between.run link (next found) := by
  rw [run, answered]

theorem run_ask_error {fault : Fault}
    (answered : controller.answer link query = (.error fault, between)) :
    controller.run link (.ask query next) = (.error fault, between) := by
  rw [run, answered]

end Asking

/-- A process that is run to its end and goes on is run in two parts. -/
theorem run_bind_ok {β : Type} {process : Process α} {continuation : α → Process β}
    {controller after : Controller σ} {result : β}
    (ran : controller.run link (process >>= continuation) = (.ok result, after)) :
    ∃ found between, controller.run link process = (.ok found, between) ∧
      between.run link (continuation found) = (.ok result, after) := by
  induction process generalizing controller with
  | done found => exact ⟨found, controller, rfl, ran⟩
  | ask query next inductionHypothesis =>
      rw [Process.ask_bind, run] at ran
      split at ran
      · next answer between answered =>
          rw [run_ask_ok answered]
          exact inductionHypothesis answer ran
      · cases ran

theorem run_ends {expected : α → Prop} {process : Process α} (ends : process.Ends expected)
    {controller after : Controller σ} {result : α}
    (ran : controller.run link process = (.ok result, after)) : expected result := by
  induction process generalizing controller with
  | done found =>
      obtain ⟨same, -⟩ := Prod.mk.inj ran
      obtain rfl := Except.ok.inj same
      exact ends
  | ask query next inductionHypothesis =>
      rw [run] at ran
      split at ran
      · next found reached answered => exact inductionHypothesis found (ends found) ran
      · cases ran

/-- A controller whose actors run brings every process to its end, and they still run. -/
theorem run_ok (link : Link σ) (process : Process α) {controller : Controller σ}
    (accounts : controller.accountsRun = true) (registry : controller.registryRuns = true) :
    ∃ result after, controller.run link process = (.ok result, after) ∧
      after.accountsRun = true ∧ after.registryRuns = true := by
  induction process generalizing controller with
  | done result => exact ⟨result, controller, rfl, accounts, registry⟩
  | ask query next inductionHypothesis =>
      obtain ⟨found, answered⟩ := answer_ok link controller accounts registry query
      have accountsToo := accountsRun_answer link controller accounts query
      have registryToo :=
        (registryRuns_answer link controller accounts query).trans registry
      obtain ⟨result, after, ran, running⟩ := inductionHypothesis found accountsToo registryToo
      refine ⟨result, after, ?_, running⟩
      rw [run, ← Prod.eta (controller.answer link query), answered]
      exact ran

end Controller

/-! ## Responses -/

/-- No character of the text ends a line. -/
def OneLine (text : String) : Prop := ∀ c ∈ text.toList, c ≠ '\n' ∧ c ≠ '\r'

instance (text : String) : Decidable (OneLine text) :=
  List.decidableBAll (fun c => c ≠ '\n' ∧ c ≠ '\r') text.toList

theorem OneLine.append {left right : String} (first : OneLine left) (second : OneLine right) :
    OneLine (left ++ right) := by
  unfold OneLine
  rw [String.toList_append, List.forall_mem_append]
  exact ⟨first, second⟩

theorem OneLine.of_letters {letters : List Char} (all : ∀ c ∈ letters, isBlank c = false) :
    OneLine (String.ofList letters) := by
  unfold OneLine
  rw [String.toList_ofList]
  exact fun c member => ne_ending_of_letter (all c member)

theorem oneLine_numeral (number : Int64) : OneLine (String.ofList (ofInt64 number)) :=
  .of_letters (unbroken_numeral number.toInt).2

theorem oneLine_operators (available : OperatorSet) :
    OneLine (String.ofList available.text) := by
  refine .of_letters fun c member => ?_
  obtain ⟨operator, -, rfl⟩ := List.mem_map.mp member
  cases operator <;> decide

theorem EvaluationResult.oneLine_text (result : EvaluationResult) : OneLine result.text := by
  cases result with
  | value number => exact oneLine_numeral number
  | divisionByZero =>
      have letters : Reply.divisionText.all (fun c => c ≠ '\n' ∧ c ≠ '\r') = true := by decide
      unfold OneLine
      rw [text, String.toList_ofList]
      exact List.all_iff_forall_prop.mp letters
  | noNodes => decide +kernel

/-- Whether what a response echoes is one line. -/
def Response.Echoes : Response → Prop
  | .unknownCommand command => OneLine command
  | _ => True

/-- A response is one line, unless it echoes something that is not. -/
theorem Response.oneLine_text {response : Response} (echoes : response.Echoes) :
    OneLine response.text := by
  cases response with
  | emptyRequest => decide +kernel
  | unknownCommand command =>
      have before : OneLine "Unknown command `" := by decide +kernel
      have behind : OneLine "`!" := by decide +kernel
      exact (before.append echoes).append behind
  | malformed problem => cases problem <;> decide +kernel
  | notLoggedIn => decide +kernel
  | login outcome => cases outcome <;> decide +kernel
  | loggedOut => decide +kernel
  | creditsLeft balance =>
      have before : OneLine "You have " := by decide +kernel
      have behind : OneLine " credits left." := by decide +kernel
      exact (before.append (oneLine_numeral balance)).append behind
  | amountNotANumber => decide +kernel
  | amountNotPositive => decide +kernel
  | creditsNow balance =>
      have before : OneLine "You now have " := by decide +kernel
      have behind : OneLine " credits." := by decide +kernel
      exact (before.append (oneLine_numeral balance)).append behind
  | operators available =>
      show OneLine (if available.isEmpty then "No operations available"
        else String.ofList available.text)
      split
      · decide +kernel
      · exact oneLine_operators available
  | invalidExpression => decide +kernel
  | computed outcome =>
      cases outcome with
      | notEnoughCredits => decide +kernel
      | evaluated result => exact result.oneLine_text

/-! ## Requests -/

namespace Session

variable (session : Session)

/-- What is done for a logged-in user echoes nothing. -/
theorem withUser_ends {action : String → Process Response}
    (quiet : ∀ user, (action user).Ends Response.Echoes) :
    (session.withUser action >>= fun response => .done (response, session)).Ends
      (·.1.Echoes) := by
  have shown : (session.withUser action).Ends Response.Echoes := by
    unfold withUser
    split
    · trivial
    · exact quiet _
  exact shown.bind fun response echoes => echoes

theorem handleRequest_ends (line : String) {request : Request}
    (word : ∀ command, request = .unknown command → OneLine command) :
    (session.handleRequest line request).Ends (·.1.Echoes) := by
  cases request with
  | empty => trivial
  -- The only text of the client that a response repeats.
  | unknown command => exact word command rfl
  | malformed problem => trivial
  | login name password =>
      rw [handleRequest, login]
      split
      · trivial
      · exact fun outcome => trivial
  | logout =>
      rw [handleRequest, logout]
      split
      · trivial
      · exact fun answer => trivial
  | credits => exact session.withUser_ends fun user balance => trivial
  | buy amount =>
      refine session.withUser_ends fun user => ?_
      unfold buy
      split
      · trivial
      · split
        · exact fun balance => trivial
        · trivial
  | list => exact session.withUser_ends fun user available => trivial
  | compute expression =>
      intro counted
      refine session.withUser_ends fun user => ?_
      unfold compute
      split
      · trivial
      · exact (Process.ends_of_forall (fun _ => trivial) _).bind fun outcome (_ : True) => trivial

end Session

/-! ## Commands -/

namespace Request

/-- The first word of a request, where the request tells it. -/
def command? : Request → Option String
  | .empty | .malformed _ => none
  | .unknown command => some command
  | .login .. => some "!login"
  | .logout => some "!logout"
  | .credits => some "!credits"
  | .buy _ => some "!buy"
  | .list => some "!list"
  | .compute _ => some "!compute"

theorem command?_bare (request : Request) (parameters : List Word) :
    ∀ command ∈ (bare request parameters).command?, request.command? = some command := by
  unfold bare
  split
  · exact fun command => id
  · nofun

theorem eq_of_command?_ofWords {given : String} {parameters : List Word} {command : String}
    (named : (ofWords given parameters).command? = some command) : command = given := by
  unfold ofWords at named
  split at named
  · split at named <;> simp_all [command?]
  · simpa [command?, eq_comm] using command?_bare _ _ _ named
  · simpa [command?, eq_comm] using command?_bare _ _ _ named
  · split at named <;> simp_all [command?]
  · simpa [command?, eq_comm] using command?_bare _ _ _ named
  · simpa [command?, eq_comm] using named
  · simpa [command?, eq_comm] using named

/-- What a request is told apart by is the first word of its line. -/
theorem exists_words_of_command? {line command : String}
    (named : (ofLine line).command? = some command) :
    ∃ parameters, words line.toList = command.toList :: parameters := by
  unfold ofLine at named
  split at named
  · cases named
  · next first parameters split =>
      obtain rfl := eq_of_command?_ofWords named
      exact ⟨parameters, by rw [split, String.toList_ofList]⟩

theorem oneLine_of_unknown {line command : String}
    (unknown : Request.ofLine line = .unknown command) : OneLine command := by
  obtain ⟨parameters, split⟩ := exists_words_of_command? (congrArg command? unknown)
  have word : command.toList ∈ words line.toList := by
    rw [split]
    exact List.mem_cons_self
  rw [← String.ofList_toList (s := command)]
  exact .of_letters (unbroken_of_mem_words word).2

end Request

namespace Session

/-- Every response is one line, whatever the request, and whatever its queries are answered
with. -/
theorem handle_ends (session : Session) (line : String) :
    (session.handle line).Ends (OneLine ·.1.text) := by
  have echoes : (session.handle line).Ends (·.1.Echoes) :=
    session.handleRequest_ends line fun command => Request.oneLine_of_unknown
  exact echoes.imp fun result => Response.oneLine_text

/-- What is done depends on the words of a line only. -/
theorem run_handle_congr {σ : Type} (link : Link σ) (controller : Controller σ)
    (session : Session) {line other : String} (same : words line.toList = words other.toList) :
    controller.run link (session.handle line) = controller.run link (session.handle other) := by
  have request : Request.ofLine line = Request.ofLine other := by
    unfold Request.ofLine
    rw [same]
  have counted : controller.statistics.record line = controller.statistics.record other := by
    unfold Statistics.record Statistics.countedWords
    rw [same]
  unfold handle
  rw [request]
  cases Request.ofLine other with
  | compute expression =>
      show Controller.run link _
          { controller with statistics := controller.statistics.record line } =
        Controller.run link _
          { controller with statistics := controller.statistics.record other }
      rw [counted]
  | _ => rfl

/-- Framing may drop a carriage return at the end of a request. It is handled the same. -/
theorem exists_received {σ : Type} (link : Link σ) (line : String) :
    ∃ received, text? (dropReturn (bytesOf line)) = some received ∧
      ∀ (controller : Controller σ) (session : Session),
        controller.run link (session.handle received) =
          controller.run link (session.handle line) := by
  rcases dropReturn_bytesOf line with same | ⟨front, rfl, dropped⟩
  · rw [same]
    exact ⟨line, text?_bytesOf line, fun controller session => rfl⟩
  · rw [dropped]
    refine ⟨front, text?_bytesOf front, fun controller session => ?_⟩
    apply run_handle_congr
    have blank : isBlank '\r' = true := by decide
    have behind : (front ++ "\r").toList = front.toList ++ '\r' :: [] := String.toList_append
    rw [behind, words_append_blank blank, words_nil, List.append_nil]

end Session

end ArithmeticCloud.Service
