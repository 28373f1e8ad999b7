import ArithmeticCloud.Proofs.Node.Histories
import Mathlib.Data.List.DropRight

/-!
Contract: what a history still holds after any pushes and questions.

Owns:
- pushes and questions as requests, with what each is answered;
- the records that are held in terms of the pushes alone: the latest ones, up to the
  capacity, or all of them if the capacity is zero;
- that questions do not matter to it.

Does not own: the room that is set aside for the records.
-/

namespace ArithmeticCloud.Node

/-! ## Requests -/

inductive HistoryRequest where
  | push (record : ComputeRecord)
  | latest (count : Nat)
  | all
  | size
  | isEmpty
deriving DecidableEq, Repr

inductive HistoryAnswer where
  | noted
  | records (records : List ComputeRecord)
  | size (count : Nat)
  | isEmpty (answer : Bool)
deriving DecidableEq, Repr

/-- The record that a request adds. -/
def HistoryRequest.pushed? : HistoryRequest → Option ComputeRecord
  | .push record => some record
  | _ => none

namespace History

def handle (history : History) : HistoryRequest → HistoryAnswer × History
  | .push record => (.noted, history.push record)
  | .latest count => (.records (history.latest count), history)
  | .all => (.records history.records, history)
  | .size => (.size history.size, history)
  | .isEmpty => (.isEmpty (history.size == 0), history)

/-- A history that starts out empty, after these requests. -/
def after (capacity : Nat) (requests : List HistoryRequest) : History :=
  requests.foldl (fun history request => (history.handle request).2) (.empty capacity)

theorem handle_eq_extend (history : History) (request : HistoryRequest) :
    (history.handle request).2 = history.extend request.pushed?.toList := by
  cases request <;> rfl

/-- Only the pushes among the requests matter. -/
theorem after_eq_extend (capacity : Nat) (requests : List HistoryRequest) :
    after capacity requests =
      (empty capacity).extend (requests.filterMap HistoryRequest.pushed?) := by
  induction requests using List.reverseRecOn with
  | nil => rfl
  | append_singleton earlier request inductionHypothesis =>
      have pushed : [request].filterMap HistoryRequest.pushed? = request.pushed?.toList := by
        cases request <;> rfl
      have last : after capacity (earlier ++ [request]) =
          ((after capacity earlier).handle request).2 := List.foldl_append
      rw [last, handle_eq_extend, inductionHypothesis, List.filterMap_append, extend_append,
        pushed]

/-! ## What is held -/

/-- The records of these pushes that a history of the capacity holds. -/
def kept (capacity : Nat) (pushed : List ComputeRecord) : List ComputeRecord :=
  if capacity = 0 then pushed else pushed.rtake capacity

theorem length_kept {capacity : Nat} (positive : 0 < capacity) (pushed : List ComputeRecord) :
    (kept capacity pushed).length = min capacity pushed.length := by
  rw [kept, if_neg (by omega), List.rtake, List.length_drop]
  omega

theorem kept_suffix (capacity : Nat) (pushed : List ComputeRecord) :
    kept capacity pushed <:+ pushed := by
  unfold kept
  split
  · exact List.suffix_rfl
  · exact List.drop_suffix _ pushed

/-- A history that holds what it should holds it after one more push. -/
theorem push_kept (capacity : Nat) (pushed : List ComputeRecord) (record : ComputeRecord) :
    push ⟨capacity, kept capacity pushed⟩ record =
      ⟨capacity, kept capacity (pushed ++ [record])⟩ := by
  unfold push
  by_cases unbounded : capacity = 0
  · -- It is full only as long as there is nothing to drop.
    subst unbounded
    show (if pushed.length = 0 then _ else _ : History) = _
    split
    · next nothing =>
        obtain rfl := List.length_eq_zero_iff.mp nothing
        rfl
    · rfl
  · simp only [kept, if_neg unbounded, List.rtake, List.length_drop, List.length_append,
      List.length_singleton]
    split
    · next full =>
        have later : pushed.length + 1 - capacity = pushed.length - capacity + 1 := by omega
        rw [List.drop_drop, later, List.drop_append_of_le_length (by omega)]
    · next room =>
        have whole : pushed.length + 1 - capacity = 0 := by omega
        have before : pushed.length - capacity = 0 := by omega
        rw [whole, before, List.drop_zero, List.drop_zero]

theorem extend_empty (capacity : Nat) (pushed : List ComputeRecord) :
    (empty capacity).extend pushed = ⟨capacity, kept capacity pushed⟩ := by
  induction pushed using List.reverseRecOn with
  | nil =>
      have nothing : kept capacity [] = [] := List.suffix_nil.mp (kept_suffix capacity [])
      rw [nothing]
      rfl
  | append_singleton earlier record inductionHypothesis =>
      rw [extend_append, inductionHypothesis]
      exact push_kept capacity earlier record

theorem latest_suffix (history : History) (count : Nat) :
    history.latest count <:+ history.records :=
  List.drop_suffix _ history.records

theorem length_latest (history : History) (count : Nat) :
    (history.latest count).length = min count history.size := by
  unfold latest size
  rw [List.length_drop]
  omega

/-- Whatever was pushed and asked before, a history of a positive capacity holds the latest
records, as many as the capacity or as were pushed, in the order of the pushes. It is asked
for the latest of these in the same sense, and for their number, which never exceeds the
capacity. With capacity zero it holds every record. Questions change nothing, whenever they
are asked. -/
theorem histories_keep_the_latest (capacity : Nat) (requests : List HistoryRequest) :
    let history := after capacity requests
    let pushed := requests.filterMap HistoryRequest.pushed?
    (∃ held, (history.handle .all).1 = .records held ∧
      (0 < capacity → held <:+ pushed ∧ held.length = min capacity pushed.length ∧
        held.length ≤ capacity) ∧
      (capacity = 0 → held = pushed) ∧
      (∀ count, ∃ latest, (history.handle (.latest count)).1 = .records latest ∧
        latest <:+ held ∧ latest.length = min count held.length) ∧
      (history.handle .size).1 = .size held.length ∧
      (history.handle .isEmpty).1 = .isEmpty held.isEmpty) ∧
    (∀ request, request.pushed? = none → (history.handle request).2 = history) ∧
    after capacity (requests.filter (·.pushed?.isSome)) = history := by
  intro history pushed
  have known : history = ⟨capacity, kept capacity pushed⟩ := by
    rw [← extend_empty]
    exact after_eq_extend capacity requests
  have records : history.records = kept capacity pushed := congrArg History.records known
  refine ⟨⟨history.records, rfl, ?_, ?_, ?_, rfl, ?_⟩, ?_, ?_⟩
  · intro positive
    have length : history.records.length = min capacity pushed.length := by
      rw [records]
      exact length_kept positive pushed
    refine ⟨?_, length, ?_⟩
    · rw [records]
      exact kept_suffix capacity pushed
    · rw [length]
      exact Nat.min_le_left capacity pushed.length
  · intro unbounded
    rw [records, kept, if_pos unbounded]
  · intro count
    exact ⟨history.latest count, rfl, history.latest_suffix count, history.length_latest count⟩
  · show HistoryAnswer.isEmpty (history.records.length == 0) = _
    cases history.records <;> rfl
  · intro request asks
    rw [handle_eq_extend, asks]
    rfl
  · show _ = after capacity requests
    rw [after_eq_extend, after_eq_extend, List.filterMap_filter]
    congr 2
    funext request
    cases request <;> rfl

/-- Five pushes with questions in between, to a history that holds three records. -/
def fivePushes : List HistoryRequest :=
  let record (number : Int64) : ComputeRecord := ⟨number, number, .add, 1, .value (number + 1)⟩
  [.isEmpty, .push (record 0), .push (record 1), .latest 7, .push (record 2), .push (record 3),
    .all, .push (record 4)]

theorem histories_keep_the_latest_fivePushes :
    0 < 3 ∧ ∃ held latest, ((after 3 fivePushes).handle .all).1 = .records held ∧
      held <:+ fivePushes.filterMap HistoryRequest.pushed? ∧ held.length = 3 ∧
      ((after 3 fivePushes).handle (.latest 2)).1 = .records latest ∧
      latest.map ComputeRecord.timestamp = [3, 4] ∧
      ((after 3 fivePushes).handle .all).2 = after 3 fivePushes := by
  have positive : 0 < 3 := by decide
  obtain ⟨⟨held, answered, bounded, -, asked, -⟩, quiet, -⟩ :=
    histories_keep_the_latest 3 fivePushes
  obtain ⟨suffix, length, -⟩ := bounded positive
  obtain ⟨latest, latestAnswered, -⟩ := asked 2
  refine ⟨positive, held, latest, answered, suffix, length, latestAnswered, ?_, quiet .all rfl⟩
  have same : (after 3 fivePushes).latest 2 = latest := HistoryAnswer.records.inj latestAnswered
  rw [← same]
  decide

/-- With capacity zero nothing is dropped. -/
example : (after 0 fivePushes).records.map ComputeRecord.timestamp = [0, 1, 2, 3, 4] := by
  decide

end History

end ArithmeticCloud.Node
