import ArithmeticCloud.Proofs.Node.Peers
import ArithmeticCloud.Proofs.Transport.Cuts

/-!
Contract: the history of a node holds what the node was asked to compute.

Owns:
- requests and answers as lines, and answers read back from their text;
- the conversation over a connection that carries one request;
- the history after any conversation: one more record for every request to compute
  that is handled, and nothing for anything else;
- the nodes after one of them was asked to compute.

Does not own: who asks.
-/

namespace ArithmeticCloud

open Network Node Text Transport Wire

/-! ## Answers -/

/-- An answer is read back from its text, a division by zero and the least integer
among them. -/
theorem Reply.parse?_text (reply : Reply) : Reply.parse? reply.text = some reply := by
  cases reply with
  | value number =>
      have word : Unbroken (ofInt64 number) := unbroken_numeral number.toInt
      have noDivision : ofInt64 number ≠ divisionText := by
        intro same
        have blankless := word.2 ' ' (by rw [same]; decide)
        exact absurd blankless (by decide)
      rw [parse?, text, trim_of_unbroken word, if_neg noDivision, int64?_ofInt64, Option.map_some]
  | divisionByZero =>
      have trimmed : trim divisionText = divisionText := by decide
      rw [parse?, text, if_pos trimmed]

/-! ## Lines -/

theorem ne_ending_of_letter {c : Char} (letter : isBlank c = false) : c ≠ '\n' ∧ c ≠ '\r' := by
  constructor
  · rintro rfl
    exact absurd letter (by decide)
  · rintro rfl
    exact absurd letter (by decide)

theorem Reply.ne_ending_of_mem_text {reply : Reply} {c : Char} (member : c ∈ reply.text) :
    c ≠ '\n' ∧ c ≠ '\r' := by
  cases reply with
  | value number => exact ne_ending_of_letter ((unbroken_numeral number.toInt).2 c member)
  | divisionByZero =>
      have letters : divisionText.all (fun c => c ≠ '\n' ∧ c ≠ '\r') = true := by decide
      exact of_decide_eq_true (List.all_eq_true.mp letters c member)

theorem Reply.isLine_text (reply : Reply) : IsLine (String.ofList reply.text) := by
  apply isLine_of_letters
  rw [String.toList_ofList]
  exact fun c member => ne_ending_of_mem_text member

theorem Wire.Message.isLine_encode {schema : Schema} {message : Message} (legible : schema.Legible)
    (admissible : message.Admissible schema) : IsLine message.encode := by
  rcases message with ⟨variant, values⟩
  obtain ⟨declared, sound⟩ := admissible
  obtain ⟨⟨keyword, -⟩, -⟩ := legible variant (List.mem_of_find?_eq_some declared)
  apply isLine_of_letters
  intro c member
  rw [encode, String.toList_ofList, putValues_eq] at member
  rcases List.mem_append.mp member with inKeyword | inValues
  · exact ne_ending_of_letter (keyword.2 c inKeyword)
  · obtain ⟨word, inWords, inWord⟩ := List.mem_flatMap.mp inValues
    rcases List.mem_cons.mp inWord with rfl | letter
    · decide
    · exact ne_ending_of_letter ((unbroken_valueWords sound word inWords).2 c letter)

theorem Wire.NodeRequest.isLine_encode (request : NodeRequest) : IsLine request.encode :=
  Message.isLine_encode legible_schema request.admissible

theorem Transport.messages_streamOf {lines : List String} (areLines : ∀ line ∈ lines, IsLine line) :
    messages (streamOf lines) = lines.map bytesOf := by
  have sent : streamOf lines = framed (lines.map bytesOf) ++ [] := by
    rw [List.append_nil, framed, List.flatMap_map]
    rfl
  have unbroken : ∀ message ∈ lines.map bytesOf, lineFeed ∉ message := by
    intro message member
    obtain ⟨line, inLines, rfl⟩ := List.mem_map.mp member
    exact (areLines line inLines).1
  have ended : messages [] = [] := messages_of_ended rfl
  rw [sent, messages_framed_append unbroken, ended, List.append_nil, List.map_map]
  exact List.map_congr_left fun line member => (areLines line member).2

namespace Node

/-! ## Conversations -/

/-- Over a connection that carries one request, the loop that serves it handles just
this request. -/
theorem Server.serveStream_encode (server : Server) (now : Int64) (request : NodeRequest) :
    server.serveStream now (streamOf [request.encode]) = server.handle now request := by
  have lines : ∀ line ∈ [request.encode], IsLine line :=
    List.forall_mem_singleton.mpr request.isLine_encode
  rw [serveStream, messages_streamOf lines, List.map_singleton, serve]
  simp only [text?_bytesOf, handleLine_encode, serve, List.append_nil, ite_self]

/-! ## Histories -/

/-- What a node records of a request: what it has computed, if it was asked to. -/
def recordOf? (now : Int64) : NodeRequest → Option ComputeRecord
  | .compute left operator right =>
      some ⟨now, left, operator, right, operator.apply left right⟩
  | _ => none

/-- What a node records of the messages of a connection, up to the end of the
conversation. -/
def recordsOf (now : Int64) : List Bytes → List ComputeRecord
  | [] => []
  | message :: others =>
      match text? message with
      | none => []
      | some line =>
          ((NodeRequest.decode? line).bind (recordOf? now)).toList ++
            if Server.closesAfter line then [] else recordsOf now others

/-- The history after more records. -/
def History.extend (history : History) (records : List ComputeRecord) : History :=
  records.foldl push history

theorem History.extend_append (history : History) (earlier later : List ComputeRecord) :
    history.extend (earlier ++ later) = (history.extend earlier).extend later :=
  List.foldl_append

namespace Server

theorem history_handle (server : Server) (now : Int64) (request : NodeRequest) :
    (server.handle now request).2.history =
      server.history.extend (recordOf? now request).toList := by
  cases request <;> rfl

theorem history_handleLine (server : Server) (now : Int64) (line : String) :
    (server.handleLine now line).2.history =
      server.history.extend ((NodeRequest.decode? line).bind (recordOf? now)).toList := by
  unfold handleLine
  cases NodeRequest.decode? line with
  | none => rfl
  | some request => exact server.history_handle now request

/-- After a conversation the history has grown by what was computed, in the order of the
requests. -/
theorem history_serve (server : Server) (now : Int64) (conversation : List Bytes) :
    (serve now server conversation).2.history =
      server.history.extend (recordsOf now conversation) := by
  induction conversation generalizing server with
  | nil => rfl
  | cons message others inductionHypothesis =>
      rw [serve, recordsOf]
      cases text? message with
      | none => rfl
      | some line =>
          dsimp only
          rw [History.extend_append, ← history_handleLine]
          by_cases closes : closesAfter line = true
          · rw [if_pos closes, if_pos closes]
            rfl
          · rw [if_neg closes, if_neg closes]
            exact inductionHypothesis (server.handleLine now line).2

end Server

/-! ## Nodes that compute -/

/-- A node after more records, if it serves. -/
def Remote.extend (records : List ComputeRecord) : Remote → Remote
  | .serving server => .serving { server with history := server.history.extend records }
  | other => other

theorem Remote.extend_nil (remote : Remote) : remote.extend [] = remote := by
  cases remote <;> rfl

theorem Remote.extend_append (remote : Remote) (earlier later : List ComputeRecord) :
    remote.extend (earlier ++ later) = (remote.extend earlier).extend later := by
  cases remote with
  | serving server => simp only [Remote.extend, History.extend_append]
  | answering stream => rfl
  | silent limit => rfl
  | unreachable => rfl

/-- Asking one node leaves the others as they are. -/
theorem Nodes.get_ask (nodes : Nodes) (now : Int64) (peer endpoint : Endpoint)
    (request : NodeRequest) :
    (nodes.ask now peer request).2.get endpoint =
      if endpoint = peer then ((nodes.get peer).ask now request.encode).2
      else nodes.get endpoint := by
  simp only [ask, get, lookup_set]
  by_cases same : endpoint = peer
  · rw [if_pos same, if_pos same]
    cases nodes.entries.lookup peer with
    | none => rfl
    | some remote => rfl
  · rw [if_neg same, if_neg same]

/-- A node that is asked to compute records it, and no other node does. -/
theorem Nodes.get_ask_compute (nodes : Nodes) (now : Int64) (peer endpoint : Endpoint)
    (left : Int64) (operator : Operator) (right : Int64) :
    (nodes.ask now peer (.compute left operator right)).2.get endpoint =
      (nodes.get endpoint).extend
        (if peer = endpoint then [⟨now, left, operator, right, operator.apply left right⟩]
        else []) := by
  rw [get_ask]
  by_cases same : endpoint = peer
  · rw [if_pos same, if_pos same.symm, same]
    cases nodes.get peer with
    | serving server =>
        simp only [Remote.ask, Server.handleLine_encode]
        rfl
    | answering stream => rfl
    | silent limit => rfl
    | unreachable => rfl
  · rw [if_neg same, if_neg (Ne.symm same), Remote.extend_nil]

end Node

end ArithmeticCloud
