import ArithmeticCloud.Proofs.Service.Responses
import ArithmeticCloud.Service.Conversation
import ArithmeticCloud.Service.NodeLink

/-!
Contract: a whole session over a channel, however its bytes arrive.

Owns:
- `Answers`, what a session answers to lines in turn, each in the state that the lines before
  have left;
- `converse`, the loop that serves a session while its bytes arrive piece by piece;
- that the client receives these answers and nothing else, up to the end of its lines or to the
  first that is not a text, and that its user is logged out then.

Does not own: other sessions, and stops from outside.
-/

namespace ArithmeticCloud.Service

open Text Transport

variable {σ : Type} {link : Link σ}

/-! ## Answers -/

/-- A response is sent and received as it is. -/
theorem isLine_of_handled {controller after : Controller σ} {session next : Session}
    {line : String} {response : Response}
    (handled : controller.run link (session.handle line) = (.ok (response, next), after)) :
    IsLine response.text :=
  isLine_of_letters (Controller.run_ends (session.handle_ends line) handled)

/-- What a session answers to lines, and the state that they leave. -/
inductive Answers (link : Link σ) : Controller σ → Session → List String → List Response →
    Controller σ → Session → Prop where
  | nil (controller : Controller σ) (session : Session) :
      Answers link controller session [] [] controller session
  | cons {controller reached after : Controller σ} {session next last : Session} {line : String}
      {lines : List String} {response : Response} {responses : List Response}
      (handled : controller.run link (session.handle line) = (.ok (response, next), reached))
      (rest : Answers link reached next lines responses after last) :
      Answers link controller session (line :: lines) (response :: responses) after last

namespace Answers

variable {controller reached after : Controller σ} {session next last : Session}
  {lines others : List String} {responses later : List Response}

theorem append (first : Answers link controller session lines responses reached next)
    (second : Answers link reached next others later after last) :
    Answers link controller session (lines ++ others) (responses ++ later) after last := by
  induction first with
  | nil controller session => exact second
  | cons handled rest inductionHypothesis => exact .cons handled (inductionHypothesis second)

theorem length_eq (answers : Answers link controller session lines responses after last) :
    responses.length = lines.length := by
  induction answers with
  | nil controller session => rfl
  | cons handled rest inductionHypothesis => exact congrArg (· + 1) inductionHypothesis

theorem isLine (answers : Answers link controller session lines responses after last) :
    ∀ response ∈ responses, IsLine response.text := by
  induction answers with
  | nil controller session => nofun
  | cons handled rest inductionHypothesis =>
      exact List.forall_mem_cons.mpr ⟨isLine_of_handled handled, inductionHypothesis⟩

/-- While both actors run, every line has an answer. -/
theorem exists_of_running (link : Link σ) (session : Session) (lines : List String)
    {controller : Controller σ} (accounts : controller.accountsRun = true)
    (registry : controller.registryRuns = true) :
    ∃ responses after last, Answers link controller session lines responses after last ∧
      after.accountsRun = true ∧ after.registryRuns = true := by
  induction lines generalizing controller session with
  | nil => exact ⟨[], controller, session, .nil controller session, accounts, registry⟩
  | cons line others inductionHypothesis =>
      obtain ⟨⟨response, next⟩, reached, handled, accountsToo, registryToo⟩ :=
        Controller.run_ok link (session.handle line) accounts registry
      obtain ⟨responses, after, last, rest, running⟩ :=
        inductionHypothesis next accountsToo registryToo
      exact ⟨response :: responses, after, last, .cons handled rest, running⟩

end Answers

/-- The bytes that carry responses. -/
def sentBy (responses : List Response) : Bytes :=
  framed (responses.map fun response => bytesOf response.text)

theorem sentBy_append (responses later : List Response) :
    sentBy (responses ++ later) = sentBy responses ++ sentBy later := by
  rw [sentBy, List.map_append, framed_append]
  rfl

/-- What is received of responses is their texts. -/
theorem messages_sentBy {responses : List Response}
    (areLines : ∀ response ∈ responses, IsLine response.text) :
    messages (sentBy responses) = responses.map fun response => bytesOf response.text := by
  have lines : ∀ line ∈ responses.map Response.text, IsLine line := List.forall_mem_map.mpr areLines
  have sent : sentBy responses = streamOf (responses.map Response.text) := by
    rw [sentBy, framed, streamOf, List.flatMap_map, List.flatMap_map]
  rw [sent, messages_streamOf lines, List.map_map]
  rfl

/-! ## One step of the loop -/

namespace Conversation

/-- A conversation that goes on, with these bytes received and not handled, and those sent. -/
structure Open (conversation : Conversation) (session : Session) (closed : Bool)
    (incoming outgoing : Bytes) : Prop where
  session : conversation.session = session
  goesOn : conversation.ended = none
  incoming : conversation.channel.incoming = incoming
  closed : conversation.channel.incomingClosed = closed
  outgoing : conversation.channel.outgoing = outgoing
  heard : conversation.channel.outgoingOpen = true

/-- A session that was left in this state has ended, and its user is logged out. -/
structure Left (link : Link σ) (controller : Controller σ) (session : Session)
    (result : Except Fault Unit) (outgoing : Bytes) (final : Controller σ × Conversation) :
    Prop where
  controller : final.1 = (controller.run link session.leave).2
  session : final.2.session = .anonymous
  ended : final.2.ended = some result
  outgoing : final.2.channel.outgoing = outgoing

variable {conversation : Conversation} {session next : Session} {closed : Bool}
  {incoming outgoing line more part : Bytes} {controller reached : Controller σ}

theorem Open.not_ended (opened : Open conversation session closed incoming outgoing) :
    ¬ conversation.ended.isSome = true := by
  rw [opened.goesOn]
  exact Bool.false_ne_true

theorem respond_open (opened : Open conversation session closed incoming outgoing)
    {line : String} {response : Response}
    (handled : controller.run link (session.handle line) = (.ok (response, next), reached)) :
    (conversation.respond link controller line).1 = reached ∧
      Open (conversation.respond link controller line).2 next closed incoming
        (outgoing ++ sentBy [response]) := by
  have sends := send_of_unbroken (isLine_of_handled handled).1 opened.heard
  have written : outgoing ++ sentBy [response] =
      outgoing ++ (bytesOf response.text ++ [lineFeed]) := by
    simp [sentBy, framed]
  unfold respond
  rw [opened.session, handled]
  dsimp only [Channel.sendText]
  rw [sends, written, ← opened.outgoing]
  exact ⟨rfl, rfl, opened.goesOn, opened.incoming, opened.closed, rfl, opened.heard⟩

theorem receiveText_line {channel : Channel} (arrived : channel.incoming = line ++ lineFeed :: more)
    (unbroken : lineFeed ∉ line) :
    channel.receiveText =
      (match text? (dropReturn line) with
        | some text => .message text
        | none => .failed invalidText,
      channel.take (dropReturn line) more) := by
  rw [Channel.receiveText, Channel.receive, arrived, receive_append unbroken]
  dsimp only
  cases text? (dropReturn line) <;> rfl

/-- A complete line is received, and then handled. -/
theorem advance_line (opened : Open conversation session closed (line ++ lineFeed :: more) outgoing)
    (unbroken : lineFeed ∉ line) {text : String} (received : text? (dropReturn line) = some text)
    {response : Response}
    (handled : controller.run link (session.handle text) = (.ok (response, next), reached))
    (bound : Nat) :
    ∃ after, Open after next closed more (outgoing ++ sentBy [response]) ∧
      advance link (bound + 1) controller conversation = advance link bound reached after := by
  have taken : Open
      { conversation with channel := conversation.channel.take (dropReturn line) more }
      session closed more outgoing :=
    ⟨opened.session, opened.goesOn, rfl, opened.closed, opened.outgoing, opened.heard⟩
  obtain ⟨same, open'⟩ := respond_open taken handled
  refine ⟨_, open', ?_⟩
  rw [advance, if_neg opened.not_ended, receiveText_line opened.incoming unbroken, received]
  exact congrArg (advance link bound · _) same

/-- A line that is not a text ends the session. -/
theorem advance_invalid
    (opened : Open conversation session closed (line ++ lineFeed :: more) outgoing)
    (unbroken : lineFeed ∉ line) (invalid : text? line = none) (bound : Nat) :
    Left link controller session (.error invalidText) outgoing
      (advance link (bound + 1) controller conversation) := by
  rw [advance, if_neg opened.not_ended, receiveText_line opened.incoming unbroken,
    text?_dropReturn_eq_none invalid]
  exact ⟨by rw [← opened.session]; rfl, rfl, rfl, opened.outgoing⟩

theorem advance_ended (opened : Open conversation session true [] outgoing) (bound : Nat) :
    Left link controller session (.ok ()) outgoing
      (advance link (bound + 1) controller conversation) := by
  have ended : conversation.channel.receiveText = (.ended, conversation.channel) := by
    rw [Channel.receiveText, Channel.receive, opened.incoming, opened.closed]
    rfl
  rw [advance, if_neg opened.not_ended, ended]
  exact ⟨by rw [← opened.session]; rfl, rfl, rfl, opened.outgoing⟩

/-- Part of a line is left until more arrives. -/
theorem advance_waiting (opened : Open conversation session false part outgoing)
    (unbroken : lineFeed ∉ part) (bound : Nat) :
    advance link (bound + 1) controller conversation = (controller, conversation) := by
  have waiting : conversation.channel.receiveText = (.waiting, conversation.channel) := by
    rw [Channel.receiveText, Channel.receive, opened.incoming, opened.closed,
      receive_of_unterminated unbroken]
    rfl
  rw [advance, if_neg opened.not_ended, waiting]

theorem serve_of_ended {result : Except Fault Unit} (ended : conversation.ended = some result) :
    serve link controller conversation = (controller, conversation) := by
  have hasEnded : conversation.ended.isSome = true := Option.isSome_of_eq_some ended
  rw [serve, advance, if_pos hasEnded]

/-! ## Many steps of the loop -/

/-- All complete texts are received and handled in turn. -/
theorem advance_answers {lines : List String} {responses : List Response} {after : Controller σ}
    {last : Session} (answers : Answers link controller session lines responses after last)
    (unbroken : ∀ line ∈ lines, lineFeed ∉ bytesOf line)
    (opened : Open conversation session closed (framed (lines.map bytesOf) ++ more) outgoing)
    (bound : Nat) :
    ∃ reached, Open reached last closed more (outgoing ++ sentBy responses) ∧
      advance link (lines.length + bound) controller conversation =
        advance link bound after reached := by
  induction answers generalizing conversation outgoing with
  | nil controller session =>
      refine ⟨conversation, ?_, by rw [List.length_nil, Nat.zero_add]⟩
      rw [sentBy, List.map_nil, framed, List.flatMap_nil, List.append_nil]
      exact opened
  | @cons _ _ _ _ _ _ line lines _ _ handled rest inductionHypothesis =>
      obtain ⟨first, others⟩ := List.forall_mem_cons.mp unbroken
      obtain ⟨text, received, same⟩ := Session.exists_received link line
      rw [List.map_cons, framed_cons, List.append_assoc, List.cons_append] at opened
      rw [← same] at handled
      obtain ⟨next, goesOn, stepped⟩ :=
        advance_line opened first received handled (lines.length + bound)
      obtain ⟨reached, open', ran⟩ := inductionHypothesis others goesOn
      refine ⟨reached, ?_, ?_⟩
      · rw [List.append_assoc, ← sentBy_append] at open'
        exact open'
      · rw [List.length_cons, Nat.add_right_comm, stepped, ran]

theorem length_le_length_framed (lines : List Bytes) : lines.length ≤ (framed lines).length := by
  induction lines with
  | nil => exact Nat.le_refl 0
  | cons line others inductionHypothesis =>
      rw [framed_cons, List.length_append, List.length_cons, List.length_cons]
      omega

/-- Serving handles all complete texts, and then looks at what is behind them. -/
theorem serve_answers {lines : List String} {responses : List Response} {after : Controller σ}
    {last : Session} (answers : Answers link controller session lines responses after last)
    (unbroken : ∀ line ∈ lines, lineFeed ∉ bytesOf line)
    (opened : Open conversation session closed (framed (lines.map bytesOf) ++ more) outgoing) :
    ∃ reached spare, Open reached last closed more (outgoing ++ sentBy responses) ∧
      serve link controller conversation = advance link (spare + 1) after reached := by
  have enough := length_le_length_framed (lines.map bytesOf)
  rw [List.length_map] at enough
  obtain ⟨spare, bound⟩ : ∃ spare,
      (framed (lines.map bytesOf) ++ more).length + 1 = lines.length + (spare + 1) := by
    refine ⟨(framed (lines.map bytesOf) ++ more).length - lines.length, ?_⟩
    rw [List.length_append]
    omega
  obtain ⟨reached, open', ran⟩ := advance_answers answers unbroken opened (spare + 1)
  exact ⟨reached, spare, open', by rw [serve, opened.incoming, bound, ran]⟩

/-! ## Bytes that arrive piece by piece -/

/-- Serves whenever a piece has arrived, and once more when the client has closed behind the last
one. -/
def converse (link : Link σ) : Controller σ → Conversation → List Bytes → Bytes →
    Controller σ × Conversation
  | controller, conversation, [], last =>
      serve link controller
        { conversation with channel := (conversation.channel.arrive last).closeIncoming }
  | controller, conversation, piece :: pieces, last =>
      let (controller, conversation) := serve link controller
        { conversation with channel := conversation.channel.arrive piece }
      converse link controller conversation pieces last

theorem Open.arrive (opened : Open conversation session closed incoming outgoing) (bytes : Bytes) :
    Open { conversation with channel := conversation.channel.arrive bytes } session closed
      (incoming ++ bytes) outgoing :=
  ⟨opened.session, opened.goesOn, congrArg (· ++ bytes) opened.incoming, opened.closed,
    opened.outgoing, opened.heard⟩

theorem Open.arriveLast (opened : Open conversation session closed incoming outgoing)
    (bytes : Bytes) :
    Open { conversation with channel := (conversation.channel.arrive bytes).closeIncoming } session
      true (incoming ++ bytes) outgoing :=
  ⟨opened.session, opened.goesOn, congrArg (· ++ bytes) opened.incoming, rfl, opened.outgoing,
    opened.heard⟩

/-- Whatever arrives after the end has no effect. -/
theorem Left.converse {reached : Controller σ} {result : Except Fault Unit}
    (left : Left link controller session result outgoing (reached, conversation))
    (pieces : List Bytes) (last : Bytes) :
    Left link controller session result outgoing
      (converse link reached conversation pieces last) := by
  induction pieces generalizing conversation with
  | nil =>
      have stays : Conversation.converse link reached conversation [] last =
          (reached, { conversation with
            channel := (conversation.channel.arrive last).closeIncoming }) :=
        serve_of_ended left.ended
      rw [stays]
      exact ⟨left.controller, left.session, left.ended, left.outgoing⟩
  | cons piece pieces inductionHypothesis =>
      have stays : serve link reached
          { conversation with channel := conversation.channel.arrive piece } =
            (reached, { conversation with channel := conversation.channel.arrive piece }) :=
        serve_of_ended left.ended
      rw [Conversation.converse, stays]
      exact inductionHypothesis ⟨left.controller, left.session, left.ended, left.outgoing⟩

/-- What a part of a stream holds: complete lines, and part of the next. -/
theorem exists_split_framed {lines : List Bytes} {front back : Bytes}
    (unbroken : ∀ line ∈ lines, lineFeed ∉ line) (whole : front ++ back = framed lines) :
    ∃ complete others part, lines = complete ++ others ∧ front = framed complete ++ part ∧
      part ++ back = framed others ∧ lineFeed ∉ part := by
  have taken : front = (framed lines).take front.length := by
    rw [← whole, List.take_left]
  rcases cut_cases lines front.length with
    everything | ⟨complete, next, rest, kept, rfl, position, fits⟩
  · rw [List.take_of_length_le everything] at taken
    refine ⟨lines, [], [], (List.append_nil _).symm, ?_, ?_, List.not_mem_nil⟩
    · rw [List.append_nil, taken]
    · rw [← taken, List.append_right_eq_self] at whole
      exact whole
  · rw [position, take_framed fits] at taken
    refine ⟨complete, next :: rest, next.take kept, rfl, taken, ?_, fun member => ?_⟩
    · rw [taken, framed_append, List.append_assoc] at whole
      exact List.append_cancel_left whole
    · exact unbroken next (List.mem_append_right _ List.mem_cons_self) (List.mem_of_mem_take member)

/-- How a session ends: with its stream, or with the first line that is not a text. -/
def resultOf (rest : List Bytes) : Except Fault Unit :=
  if rest.isEmpty then .ok () else .error invalidText

/-- The complete lines of a part are texts, or reach to the first line that is none. -/
theorem complete_cases {texts : List String} {rest complete others : List Bytes}
    (same : texts.map bytesOf ++ rest = complete ++ others) :
    (∃ earlier later, texts = earlier ++ later ∧ complete = earlier.map bytesOf ∧
      others = later.map bytesOf ++ rest) ∨
    ∃ first more, complete = texts.map bytesOf ++ first :: more ∧ rest.head? = some first := by
  rcases List.append_eq_append_iff.mp same with ⟨more, rfl, rfl⟩ | ⟨more, split, rfl⟩
  · cases more with
    | nil => exact .inl ⟨texts, [], (List.append_nil _).symm, List.append_nil _, rfl⟩
    | cons first more => exact .inr ⟨first, more, rfl, rfl⟩
  · obtain ⟨earlier, later, rfl, rfl, rfl⟩ := List.map_eq_append_iff.mp split
    exact .inl ⟨earlier, later, rfl, rfl, rfl⟩

theorem serve_invalid {texts : List String} {responses : List Response} {after : Controller σ}
    {final : Session} (answers : Answers link controller session texts responses after final)
    {first : Bytes} (unbroken : ∀ text ∈ texts, lineFeed ∉ bytesOf text)
    (unbrokenToo : lineFeed ∉ first) (invalid : text? first = none)
    (opened : Open conversation session closed
      (framed (texts.map bytesOf) ++ (first ++ lineFeed :: more)) outgoing) :
    Left link after final (.error invalidText) (outgoing ++ sentBy responses)
      (serve link controller conversation) := by
  obtain ⟨reached, spare, open', served⟩ := serve_answers answers unbroken opened
  rw [served]
  exact advance_invalid open' unbrokenToo invalid spare

theorem serve_last {texts : List String} {responses : List Response} {after : Controller σ}
    {final : Session} (answers : Answers link controller session texts responses after final)
    {rest : List Bytes} (unbroken : ∀ line ∈ texts.map bytesOf ++ rest, lineFeed ∉ line)
    (invalid : ∀ first ∈ rest.head?, text? first = none)
    (opened : Open conversation session true (framed (texts.map bytesOf ++ rest)) outgoing) :
    Left link after final (resultOf rest) (outgoing ++ sentBy responses)
      (serve link controller conversation) := by
  obtain ⟨ofTexts, ofRest⟩ := List.forall_mem_append.mp unbroken
  rw [List.forall_mem_map] at ofTexts
  rw [framed_append] at opened
  cases rest with
  | nil =>
      obtain ⟨reached, spare, open', served⟩ := serve_answers answers ofTexts opened
      rw [served]
      exact advance_ended open' spare
  | cons first others =>
      have unbrokenToo := ofRest first List.mem_cons_self
      rw [framed_cons] at opened
      exact serve_invalid answers ofTexts unbrokenToo (invalid first rfl) opened

/-- The end of a session that still has to receive these lines. -/
theorem converse_answers (link : Link σ) (pieces : List Bytes) (last : Bytes)
    {texts : List String} {rest : List Bytes} (accounts : controller.accountsRun = true)
    (registry : controller.registryRuns = true)
    (unbroken : ∀ line ∈ texts.map bytesOf ++ rest, lineFeed ∉ line)
    (invalid : ∀ first ∈ rest.head?, text? first = none)
    (opened : Open conversation session false part outgoing)
    (whole : part ++ (pieces.flatten ++ last) = framed (texts.map bytesOf ++ rest)) :
    ∃ responses after final, Answers link controller session texts responses after final ∧
      after.accountsRun = true ∧
      Left link after final (resultOf rest) (outgoing ++ sentBy responses)
        (converse link controller conversation pieces last) := by
  -- What has been received and not handled is part of a line; the lines that are left begin there.
  induction pieces generalizing controller session conversation part outgoing texts with
  | nil =>
      obtain ⟨responses, after, final, answers, running, -⟩ :=
        Answers.exists_of_running link session texts accounts registry
      rw [List.flatten_nil, List.nil_append] at whole
      have received := opened.arriveLast last
      rw [whole] at received
      have ending := serve_last answers unbroken invalid received
      exact ⟨responses, after, final, answers, running, ending⟩
  | cons piece pieces inductionHypothesis =>
      rw [List.flatten_cons, List.append_assoc, ← List.append_assoc] at whole
      obtain ⟨complete, others, left, lines, received, remaining, noLine⟩ :=
        exists_split_framed unbroken whole
      have arrived := opened.arrive piece
      rw [received] at arrived
      rcases complete_cases lines with
        ⟨earlier, later, rfl, rfl, rfl⟩ | ⟨first, more, rfl, isFirst⟩
      -- The session answers what is complete and waits for the next piece.
      · rw [List.map_append, List.append_assoc] at unbroken
        obtain ⟨ofEarlier, ofLater⟩ := List.forall_mem_append.mp unbroken
        rw [List.forall_mem_map] at ofEarlier
        obtain ⟨responses, between, next, answers, accountsToo, registryToo⟩ :=
          Answers.exists_of_running link session earlier accounts registry
        obtain ⟨reached, spare, open', served⟩ := serve_answers answers ofEarlier arrived
        rw [advance_waiting open' noLine] at served
        obtain ⟨others, after, final, more, running, ending⟩ :=
          inductionHypothesis accountsToo registryToo ofLater open' remaining
        rw [List.append_assoc, ← sentBy_append] at ending
        refine ⟨responses ++ others, after, final, answers.append more, running, ?_⟩
        rw [converse, served]
        exact ending
      -- The session ends in this piece, and the pieces behind it find nobody.
      · obtain ⟨responses, after, final, answers, running, -⟩ :=
          Answers.exists_of_running link session texts accounts registry
        obtain ⟨ofTexts, ofRest⟩ := List.forall_mem_append.mp unbroken
        rw [List.forall_mem_map] at ofTexts
        rw [framed_append, framed_cons, List.append_assoc, List.append_assoc,
          List.cons_append] at arrived
        have unbrokenToo := ofRest first (List.mem_of_head? isFirst)
        have ending := serve_invalid answers ofTexts unbrokenToo (invalid first isFirst) arrived
        have result : resultOf rest = .error invalidText := by
          obtain ⟨rest, rfl⟩ := List.head?_eq_some_iff.mp isFirst
          rfl
        refine ⟨responses, after, final, answers, running, ?_⟩
        rw [result]
        exact ending.converse pieces last

end Conversation

namespace Session

/-- A user is offline once its session has ended. -/
theorem isOnline_leave (link : Link σ) {controller : Controller σ}
    (running : controller.accountsRun = true) {session : Session} {user : String}
    (isUser : session.user = some user) :
    (controller.run link session.leave).2.accounts.isOnline user = false := by
  rw [leave, isUser]
  show (controller.tellAccounts (·.logout user)).accounts.isOnline user = false
  rw [controller.tellAccounts_running running]
  show (controller.accounts.logout user).isOnline user = false
  rw [Billing.Accounts.isOnline_logout, if_pos rfl]

end Session

/-- However the bytes of a client arrive, it receives one line for each of its lines, in order: the
text that handling the line gives in the state that the lines before have left. Its session ends
with the stream, or with an error at the first line that is not a text, and what comes after that
has no effect. In the end its user is logged out. No response to any line in any state has a
character that ends a line, so that framing changes none and refuses none. -/
theorem sessions_answer_every_line (link : Link σ) (session : Session) (texts : List String)
    (rest pieces : List Bytes) (last : Bytes) {controller : Controller σ}
    (accounts : controller.accountsRun = true) (registry : controller.registryRuns = true)
    (unbroken : ∀ line ∈ texts.map bytesOf ++ rest, lineFeed ∉ line)
    (invalid : ∀ first ∈ rest.head?, text? first = none)
    (arrives : pieces.flatten ++ last =
      (Channel.fresh.sendAll (texts.map bytesOf ++ rest)).outgoing) :
    (∃ responses after final, Answers link controller session texts responses after final ∧
      responses.length = texts.length ∧
      let ended := Conversation.converse link controller ⟨.fresh, session, none⟩ pieces last
      messages ended.2.channel.outgoing = responses.map (fun response => bytesOf response.text) ∧
        ended.2.ended = some (if rest = [] then .ok () else .error invalidText) ∧
        ended.2.session = .anonymous ∧ ended.1 = (after.run link final.leave).2 ∧
        ∀ user, final.user = some user → ended.1.accounts.isOnline user = false) ∧
    ∀ (state reached : Controller σ) (current next : Session) (line : String) (response : Response),
      state.run link (current.handle line) = (.ok (response, next), reached) →
        ∀ c ∈ response.text.toList, c ≠ '\n' ∧ c ≠ '\r' := by
  have opened : Conversation.Open ⟨.fresh, session, none⟩ session false [] [] :=
    ⟨rfl, rfl, rfl, rfl, rfl, rfl⟩
  have stream : pieces.flatten ++ last = framed (texts.map bytesOf ++ rest) := by
    rw [arrives, outgoing_sendAll unbroken rfl]
    rfl
  obtain ⟨responses, after, final, answers, running, left⟩ :=
    Conversation.converse_answers link pieces last accounts registry unbroken invalid opened stream
  have result : Conversation.resultOf rest = if rest = [] then .ok () else .error invalidText := by
    cases rest <;> rfl
  refine ⟨⟨responses, after, final, answers, answers.length_eq, ?_⟩, ?_⟩
  · refine ⟨?_, result ▸ left.ended, left.session, left.controller, fun user isUser => ?_⟩
    · rw [left.outgoing]
      exact messages_sentBy answers.isLine
    · rw [left.controller]
      exact Session.isOnline_leave link running isUser
  · exact fun state reached current next line response handled =>
      Controller.run_ends (current.handle_ends line) handled

/-- A login, an unknown command, and then a byte that begins no character. -/
def garbled : Bytes :=
  (Channel.fresh.sendAll [bytesOf "!login ann secret", bytesOf "hello", [255]]).outgoing

theorem sessions_answer_every_line_garbled :
    let controller := Controller.start 100 [⟨"ann", "secret", 500⟩] ()
    let ended := Conversation.converse Link.inPlace controller .fresh [garbled.take 7]
      (garbled.drop 7)
    (messages ended.2.channel.outgoing).length = 2 ∧
      ended.2.ended = some (.error invalidText) ∧ ended.2.session = .anonymous := by
  intro controller ended
  have unbroken : ∀ line ∈ ["!login ann secret", "hello"].map bytesOf ++ [[255]],
      lineFeed ∉ line := List.all_iff_forall_prop.mp (by decide +kernel)
  have invalid : ∀ first ∈ [([255] : Bytes)].head?, text? first = none := by
    intro first isFirst
    obtain rfl := Option.some.inj isFirst
    decide +kernel
  have arrives : [garbled.take 7].flatten ++ garbled.drop 7 = garbled := by
    rw [List.flatten_singleton, List.take_append_drop]
  have running : controller.accountsRun = true := rfl
  obtain ⟨⟨responses, after, final, -, length, received, result, left, -⟩, -⟩ :=
    sessions_answer_every_line Link.inPlace .anonymous ["!login ann secret", "hello"] [[255]]
      [garbled.take 7] (garbled.drop 7) running rfl unbroken invalid arrives
  have lines : messages ended.2.channel.outgoing = _ := received
  rw [lines, List.length_map]
  exact ⟨length, result, left⟩

end ArithmeticCloud.Service
