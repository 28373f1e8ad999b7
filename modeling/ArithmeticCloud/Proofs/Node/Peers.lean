import ArithmeticCloud.Node.Remote
import ArithmeticCloud.Proofs.Wire.Messages

/-!
Contract: what the requests of a join round do to the nodes that serve them.

Owns:
- what a request can do to levels, and a share that is staged and then committed or
  rolled back;
- the levels of every node after one of the nodes was asked or told something.

Does not own: rounds.
-/

namespace ArithmeticCloud.Node

open Network Transport Wire

/-! ## Levels -/

namespace Levels

variable {levels : Levels} {value : UInt64}

@[simp] theorem minimum_handle (levels : Levels) (request : NodeRequest) :
    (levels.handle request).minimum = levels.minimum := by
  cases request with
  | share value =>
      simp only [handle, offer]
      split <;> rfl
  | _ => rfl

theorem handle_share_of_le (accepted : levels.minimum ≤ value) :
    levels.handle (.share value) = levels.stage value := by
  simp only [handle, offer, if_pos accepted]

theorem handle_share_of_not_le (refused : ¬ levels.minimum ≤ value) :
    levels.handle (.share value) = levels := by
  simp only [handle, offer, if_neg refused]

/-- What a request can do to levels. -/
theorem handle_cases (levels : Levels) (request : NodeRequest) :
    levels.handle request = levels ∨
    (∃ value, request = .share value ∧ levels.minimum ≤ value ∧
      levels.handle request = levels.stage value) ∨
    (∃ value, request = .commit value ∧ levels.handle request = levels.commit) ∨
    request = .rollback ∧ levels.handle request = levels.rollback := by
  cases request with
  | share value =>
      by_cases accepted : levels.minimum ≤ value
      · exact .inr (.inl ⟨value, rfl, accepted, handle_share_of_le accepted⟩)
      · exact .inl (handle_share_of_not_le accepted)
  | commit value => exact .inr (.inr (.inl ⟨value, rfl, rfl⟩))
  | rollback => exact .inr (.inr (.inr ⟨rfl, rfl⟩))
  | compute left operator right => exact .inl rfl
  | getLogs => exact .inl rfl

theorem vote_offer (levels : Levels) (value : UInt64) :
    (levels.offer value).1 = if levels.minimum ≤ value then .accept else .reject := by
  unfold offer
  split <;> rfl

theorem commit_stage (levels : Levels) (value : UInt64) :
    (levels.stage value).commit = ⟨value, value, levels.minimum⟩ := rfl

/-- Without a staged share a commit has no effect. -/
theorem commit_settled (settled : levels.Settled) : levels.commit = levels := by
  rcases levels with ⟨committed, proposed, minimum⟩
  obtain rfl : proposed = committed := settled
  rfl

theorem rollback_settled (settled : levels.Settled) : levels.rollback = levels := by
  rcases levels with ⟨committed, proposed, minimum⟩
  obtain rfl : proposed = committed := settled
  rfl

theorem rollback_stage (settled : levels.Settled) : (levels.stage value).rollback = levels := by
  rcases levels with ⟨committed, proposed, minimum⟩
  obtain rfl : proposed = committed := settled
  rfl

/-- A rollback takes back what an offer has staged. -/
theorem rollback_share (settled : levels.Settled) :
    (levels.handle (.share value)).rollback = levels := by
  by_cases accepted : levels.minimum ≤ value
  · rw [handle_share_of_le accepted, rollback_stage settled]
  · rw [handle_share_of_not_le accepted, rollback_settled settled]

end Levels

/-- A node understands every request. -/
theorem Server.handleLine_encode (server : Server) (now : Int64) (request : NodeRequest) :
    server.handleLine now request.encode = server.handle now request := by
  simp only [handleLine, NodeRequest.decode?_encode]

/-! ## Nodes -/

namespace Nodes

theorem lookup_set (nodes : Nodes) (changed endpoint : Endpoint) (remote : Remote) :
    (nodes.set changed remote).entries.lookup endpoint =
      if endpoint = changed then (nodes.entries.lookup changed).map fun _ => remote
      else nodes.entries.lookup endpoint := by
  rcases nodes with ⟨entries⟩
  simp only [set]
  induction entries with
  | nil => simp
  | cons entry others inductionHypothesis =>
      rcases entry with ⟨known, old⟩
      rw [List.map_cons]
      by_cases isChanged : known = changed
      · subst known
        rw [if_pos rfl]
        by_cases same : endpoint = changed
        · simp [same]
        · have different : (endpoint == changed) = false := by simpa using same
          simp only [List.lookup_cons, different, inductionHypothesis, if_neg same]
      · rw [if_neg isChanged]
        by_cases same : endpoint = changed
        · subst endpoint
          have different : (changed == known) = false := by simpa using Ne.symm isChanged
          simp only [List.lookup_cons, different, inductionHypothesis, if_pos]
        · simp only [List.lookup_cons, inductionHypothesis, if_neg same]

/-- The levels of the node at an endpoint. -/
def levels? (nodes : Nodes) (endpoint : Endpoint) : Option Levels :=
  (nodes.get endpoint).server?.map Server.levels

variable {nodes : Nodes} {peer : Endpoint} {levels : Levels}

theorem serving_of_levels? (known : nodes.levels? peer = some levels) :
    ∃ server, nodes.entries.lookup peer = some (.serving server) ∧ server.levels = levels := by
  rcases Option.map_eq_some_iff.mp known with ⟨server, serves, same⟩
  refine ⟨server, ?_, same⟩
  unfold get at serves
  cases found : nodes.entries.lookup peer with
  | none => simp [found, Remote.server?] at serves
  | some remote =>
      rw [found, Option.getD_some] at serves
      cases remote with
      | serving other =>
          obtain rfl : other = server := Option.some.inj serves
          rfl
      | answering stream => cases serves
      | silent limit => cases serves
      | unreachable => cases serves

theorem levels?_set_serving (known : nodes.levels? peer = some levels) (server : Server)
    (endpoint : Endpoint) :
    (nodes.set peer (.serving server)).levels? endpoint =
      if endpoint = peer then some server.levels else nodes.levels? endpoint := by
  rcases serving_of_levels? known with ⟨before, found, -⟩
  unfold levels? get
  rw [lookup_set, found]
  split <;> rfl

/-- A node that is asked something handles the request. -/
theorem levels?_ask (known : nodes.levels? peer = some levels) (now : Int64)
    (request : NodeRequest) (endpoint : Endpoint) :
    (nodes.ask now peer request).2.levels? endpoint =
      if endpoint = peer then some (levels.handle request) else nodes.levels? endpoint := by
  rcases serving_of_levels? known with ⟨server, found, rfl⟩
  have asked : (nodes.ask now peer request).2 =
      nodes.set peer (.serving (server.handle now request).2) := by
    simp only [ask, get, found, Option.getD_some, Remote.ask, Server.handleLine_encode]
  rw [asked, levels?_set_serving known, Server.levels_handle]

theorem levels?_tell (known : nodes.levels? peer = some levels) (now : Int64)
    (request : NodeRequest) (endpoint : Endpoint) :
    (nodes.tell now peer request).2.levels? endpoint =
      if endpoint = peer then some (levels.handle request) else nodes.levels? endpoint := by
  rcases serving_of_levels? known with ⟨server, found, rfl⟩
  have told : (nodes.tell now peer request).2 =
      nodes.set peer (.serving (server.handle now request).2) := by
    simp only [tell, get, found, Option.getD_some, Remote.tell, Server.handleLine_encode]
  rw [told, levels?_set_serving known, Server.levels_handle]

/-- A node answers an offered share with its vote. -/
theorem ask_share (known : nodes.levels? peer = some levels) (now : Int64) (value : UInt64) :
    (nodes.ask now peer (.share value)).1 =
      .ok (streamOf [(levels.offer value).1.encode]) := by
  rcases serving_of_levels? known with ⟨server, found, rfl⟩
  simp only [ask, get, found, Option.getD_some, Remote.ask, Server.handleLine_encode]
  rfl

/-! ## Which endpoints are known -/

/-- Asking and telling bring no node and take none away. -/
theorem endpoints_set (nodes : Nodes) (endpoint : Endpoint) (remote : Remote) :
    (nodes.set endpoint remote).entries.map Prod.fst = nodes.entries.map Prod.fst := by
  simp only [set, List.map_map]
  refine List.map_congr_left fun entry _ => ?_
  simp only [Function.comp_apply]
  split
  · next same => exact same.symm
  · rfl

end Nodes

end ArithmeticCloud.Node
