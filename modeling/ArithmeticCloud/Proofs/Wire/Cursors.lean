import ArithmeticCloud.Proofs.Wire.Messages
import ArithmeticCloud.Wire.Cursor

/-!
Contract: what cursors take, and where they are left.

Owns:
- each step of a cursor, said of the words that are not taken yet;
- attempts that agree with a reader, and attempts that take words whenever they succeed;
- the items that follow one another at a cursor, with the words of each;
- a list of items that take words: how many rounds it takes, that it has the longest run of
  items, and that it leaves the cursor in front of what is no item. A list whose items take
  nothing is not over in any number of rounds;
- the fields of messages, for which a cursor does what their readers say.

Does not own: the grammar of messages.
-/

namespace ArithmeticCloud.Wire

open Text

/-! ## Words of a cursor -/

namespace Cursor

theorem words_eq (cursor : Cursor) :
    cursor.words =
      match cursor.front? with
      | some (word, behind) => word :: Text.words behind
      | none => [] := by
  cases cursor with
  | unseen text => exact words_eq_firstWord? text
  | seen word text => rfl
  | ended => rfl

theorem peek_fst (cursor : Cursor) : cursor.peek.1 = cursor.words.head? := by
  rw [words_eq, peek]
  cases cursor.front? <;> rfl

theorem words_peek (cursor : Cursor) : cursor.peek.2.words = cursor.words := by
  rw [words_eq cursor, peek]
  cases cursor.front? <;> rfl

theorem next_fst (cursor : Cursor) : cursor.next.1 = cursor.words.head? := by
  rw [words_eq, next]
  cases cursor.front? <;> rfl

theorem words_next (cursor : Cursor) : cursor.next.2.words = cursor.words.tail := by
  rw [words_eq cursor, next]
  cases cursor.front? <;> rfl

end Cursor

/-! ## Attempts -/

namespace Attempt

variable {α β : Type}

/-- The attempt gives what the reader takes off the words of the cursor. -/
def Follows (item : Attempt α) (reader : Reader α) : Prop :=
  ∀ cursor, reader cursor.words =
    match item cursor with
    | (some value, ahead) => some (value, ahead.words)
    | (none, _) => none

/-- Whenever there is a value, the cursor that is left is at least one word ahead. -/
def Consumes (item : Attempt α) : Prop :=
  ∀ start value ahead, item start = (some value, ahead) →
    ∃ taken, taken ≠ [] ∧ start.words = taken ++ ahead.words

variable {item : Attempt α} {reader : Reader α} {start ahead stop : Cursor} {value : α}

theorem Follows.of_some (follows : item.Follows reader) (found : item start = (some value, ahead)) :
    reader start.words = some (value, ahead.words) := by
  rw [follows start, found]

theorem Follows.of_none (follows : item.Follows reader) (missing : (item start).1 = none) :
    reader start.words = none := by
  have failed : item start = (none, (item start).2) := Prod.ext missing rfl
  rw [follows start, failed]

theorem Consumes.fewer (consumes : item.Consumes) (found : item start = (some value, ahead)) :
    ahead.remaining < start.remaining := by
  obtain ⟨taken, some, split⟩ := consumes start value ahead found
  have positive := List.length_pos_of_ne_nil some
  rw [Cursor.remaining, Cursor.remaining, split, List.length_append]
  omega

/-! ### One word -/

theorem follows_word (read? : Word → Option α) : (word read?).Follows (Reader.word read?) := by
  intro cursor
  have first := cursor.peek_fst
  have same := cursor.words_peek
  unfold word
  generalize cursor.peek = looked at first same
  rcases looked with ⟨_ | found, looked⟩
  · have nothing : cursor.words = [] := List.head?_eq_none_iff.mp first.symm
    rw [nothing]
    rfl
  · have whole : cursor.words = found :: cursor.words.tail := List.eq_cons_of_mem_head? first.symm
    have behind : looked.next.2.words = cursor.words.tail := by rw [looked.words_next, same]
    rw [whole]
    cases read : read? found with
    | none => simp [Reader.word, read]
    | some value => simp [Reader.word, read, behind]

theorem consumes_word (read? : Word → Option α) : (word read?).Consumes := by
  intro start value ahead found
  have reads := (follows_word read?).of_some found
  cases whole : start.words with
  | nil =>
      rw [whole] at reads
      cases reads
  | cons next others =>
      rw [whole] at reads
      obtain ⟨read, -, same⟩ := Option.map_eq_some_iff.mp reads
      obtain ⟨-, rest⟩ := Prod.mk.inj same
      exact ⟨[next], by simp, congrArg (next :: ·) rest⟩

/-- A word that cannot be read is still there. -/
theorem words_word_of_none {read? : Word → Option α} (missing : (word read? start).1 = none) :
    (word read? start).2.words = start.words := by
  have same := start.words_peek
  unfold word at missing ⊢
  generalize start.peek = looked at same missing ⊢
  rcases looked with ⟨_ | found, looked⟩
  · exact same
  · cases read : read? found with
    | none => simpa [read] using same
    | some value => simp [read] at missing

theorem follows_keyword : keyword.Follows takeKeyword? := by
  intro cursor
  have first := cursor.next_fst
  have behind := cursor.words_next
  unfold keyword
  generalize cursor.next = taken at first behind
  rcases taken with ⟨first?, others⟩
  cases whole : cursor.words with
  | nil =>
      rw [whole] at first
      obtain rfl : first? = none := first
      rfl
  | cons next rest =>
      rw [whole] at first behind
      obtain rfl : first? = some next := first
      simp [takeKeyword?, Reader.word, behind]

/-! ### Two values -/

/-- Two values, one behind the other. The first is taken even if there is no second. -/
def pair {α β : Type} (first : Attempt α) (second : Attempt β) : Attempt (α × β) := fun cursor =>
  match first cursor with
  | (none, looked) => (none, looked)
  | (some left, ahead) =>
      match second ahead with
      | (none, looked) => (none, looked)
      | (some right, behind) => (some (left, right), behind)

theorem consumes_pair {first : Attempt α} {second : Attempt β} (consumesFirst : first.Consumes)
    (consumesSecond : second.Consumes) : (first.pair second).Consumes := by
  intro start value behind found
  unfold pair at found
  split at found
  · cases found
  · next left ahead taken =>
      split at found
      · cases found
      · next right stop takenNext =>
          obtain ⟨-, rfl⟩ := Prod.mk.inj found
          obtain ⟨front, some, whole⟩ := consumesFirst start left ahead taken
          obtain ⟨back, -, rest⟩ := consumesSecond ahead right stop takenNext
          exact ⟨front ++ back, by simp [some], by rw [whole, rest, List.append_assoc]⟩

/-! ## Items that follow one another -/

/-- The items are found one behind the other, each with the words that it takes, and the cursor
is at `stop` then. -/
inductive Consecutive (item : Attempt α) : Cursor → List (List Word × α) → Cursor → Prop where
  | nil (cursor : Cursor) : Consecutive item cursor [] cursor
  | cons {start ahead stop : Cursor} {words : List Word} {value : α}
      {others : List (List Word × α)} (found : item start = (some value, ahead))
      (split : start.words = words ++ ahead.words) (later : Consecutive item ahead others stop) :
      Consecutive item start ((words, value) :: others) stop

variable {items : List (List Word × α)}

/-- The words in front of the last cursor are those of the items, each of them once. -/
theorem Consecutive.words_eq (run : item.Consecutive start items stop) :
    start.words = items.flatMap Prod.fst ++ stop.words := by
  induction run with
  | nil cursor => rfl
  | cons found split later inductionHypothesis =>
      rw [split, inductionHypothesis, List.flatMap_cons, List.append_assoc]

theorem Consecutive.remaining_eq (run : item.Consecutive start items stop) :
    start.remaining = (items.map fun taken => taken.1.length).sum + stop.remaining := by
  rw [Cursor.remaining, run.words_eq, List.length_append, List.length_flatMap, Cursor.remaining]

theorem Consecutive.length_le (run : item.Consecutive start items stop)
    (consumes : item.Consumes) : items.length + stop.remaining ≤ start.remaining := by
  induction run with
  | nil cursor => rw [List.length_nil, Nat.zero_add]
  | cons found split later inductionHypothesis =>
      have fewer := consumes.fewer found
      rw [List.length_cons]
      omega

/-- Items that take words come to an end, since only finitely many words are left. -/
theorem exists_consecutive (consumes : item.Consumes) (start : Cursor) :
    ∃ items stop, item.Consecutive start items stop ∧ (item stop).1 = none := by
  -- Every item leaves fewer words, so the induction is on their number.
  generalize left : start.remaining = words
  induction words using Nat.strong_induction_on generalizing start with
  | h words inductionHypothesis =>
      cases attempt : item start with
      | mk value? ahead =>
          cases value? with
          | none => exact ⟨[], start, .nil start, by rw [attempt]⟩
          | some value =>
              obtain ⟨taken, -, split⟩ := consumes start value ahead attempt
              have fewer : ahead.remaining < words := left ▸ consumes.fewer attempt
              obtain ⟨items, stop, run, ends⟩ := inductionHypothesis _ fewer ahead rfl
              exact ⟨(taken, value) :: items, stop, .cons attempt split run, ends⟩

/-- Items in a row are the first ones of a row that cannot be continued. -/
theorem Consecutive.isPrefix (run : item.Consecutive start items stop) (ends : (item stop).1 = none)
    {others : List (List Word × α)} {place : Cursor}
    (shorter : item.Consecutive start others place) : others <+: items := by
  induction run generalizing others with
  | nil cursor =>
      cases shorter with
      | nil => exact List.prefix_rfl
      | cons found split later =>
          rw [found] at ends
          cases ends
  | cons found split later inductionHypothesis =>
      cases shorter with
      | nil => exact List.nil_prefix
      | cons foundToo splitToo laterToo =>
          -- An attempt has one result, so both rows go on with the same item and words.
          obtain ⟨sameValue, rfl⟩ := Prod.mk.inj (found.symm.trans foundToo)
          obtain rfl := Option.some.inj sameValue
          obtain rfl := List.append_cancel_right (split.symm.trans splitToo)
          exact List.cons_prefix_cons.mpr ⟨rfl, inductionHypothesis ends laterToo⟩

/-! ## Lists -/

theorem manyWithin_of_some (found : item start = (some value, ahead)) (rounds : Nat)
    (before : List α) : item.manyWithin (rounds + 1) before start =
      item.manyWithin rounds (before ++ [value]) ahead := by
  rw [manyWithin, found]

/-- The attempt that fails leaves no trace: the list is left at the cursor in front of it. -/
theorem manyWithin_of_none (ends : (item start).1 = none) (rounds : Nat) (before : List α) :
    item.manyWithin (rounds + 1) before start = some (some before, start) := by
  have failed : item start = (none, (item start).2) := Prod.ext ends rfl
  rw [manyWithin, failed]

/-- The list is over in the first round that finds no item, however many more there could be. -/
theorem Consecutive.manyWithin_eq (run : item.Consecutive start items stop)
    (ends : (item stop).1 = none) (rounds : Nat) (before : List α) :
    item.manyWithin rounds before start =
      if items.length < rounds then some (some (before ++ items.map Prod.snd), stop) else none := by
  induction run generalizing rounds before with
  | nil cursor =>
      cases rounds with
      | zero => rfl
      | succ rounds =>
          rw [manyWithin_of_none ends, List.map_nil, List.append_nil, List.length_nil,
            if_pos (Nat.zero_lt_succ rounds)]
  | cons found split later inductionHypothesis =>
      cases rounds with
      | zero => rfl
      | succ rounds =>
          rw [manyWithin_of_some found, inductionHypothesis ends, List.map_cons, List.append_assoc,
            List.singleton_append, List.length_cons]
          simp only [Nat.succ_lt_succ_iff]

theorem Consecutive.many_eq (run : item.Consecutive start items stop)
    (ends : (item stop).1 = none) (consumes : item.Consumes) :
    item.many start = some (some (items.map Prod.snd), stop) := by
  have enough : items.length < start.remaining + 1 := by
    have fewer := run.length_le consumes
    omega
  rw [many, run.manyWithin_eq ends, if_pos enough, List.nil_append]

/-- The items that are found one behind the other are those that are read off the words. -/
theorem Consecutive.readerMany_eq (run : item.Consecutive start items stop)
    (ends : (item stop).1 = none) (consumes : item.Consumes) (follows : item.Follows reader) :
    reader.many start.words = (items.map Prod.snd, stop.words) := by
  induction run with
  | nil cursor =>
      rw [Reader.many, follows.of_none ends]
      rfl
  | @cons start ahead stop _ value others found split later inductionHypothesis =>
      have fewer : ahead.words.length < start.words.length := consumes.fewer found
      rw [Reader.many, follows.of_some found]
      simp only [if_pos fewer, inductionHypothesis ends, List.map_cons]

/-- An item that is found without taking a word is found in every round. -/
theorem manyWithin_eq_none_of_stuck (stuck : item start = (some value, start)) (rounds : Nat)
    (before : List α) : item.manyWithin rounds before start = none := by
  induction rounds generalizing before with
  | zero => rfl
  | succ rounds inductionHypothesis =>
      rw [manyWithin_of_some stuck, inductionHypothesis]

/-- A list of items that take words is over after one round for each item and one in which
none is found, and it is there even if it has no items. Its items are the longest run of items
at the cursor. The cursor stops in front of the first place without an item, however far the
attempt has looked that found none there. The words up to this place are those of the items,
each of them once, and just these are no longer counted; the rest is left. It is the list that
a reader takes off the words, if the items are those of the reader. -/
theorem lists_take_the_longest_run (consumes : item.Consumes) (start : Cursor) :
    ∃ items stop,
      (∀ rounds, item.manyWithin rounds [] start =
        if items.length < rounds then some (some (items.map Prod.snd), stop) else none) ∧
      item.many start = some (some (items.map Prod.snd), stop) ∧
      item.Consecutive start items stop ∧ (item stop).1 = none ∧
      (∀ run place, item.Consecutive start run place → run <+: items) ∧
      start.words = items.flatMap Prod.fst ++ stop.words ∧
      start.remaining = (items.map fun taken => taken.1.length).sum + stop.remaining ∧
      ∀ reader : Reader α, item.Follows reader →
        reader.many start.words = (items.map Prod.snd, stop.words) := by
  obtain ⟨items, stop, run, ends⟩ := exists_consecutive consumes start
  refine ⟨items, stop, fun rounds => run.manyWithin_eq ends rounds [], run.many_eq ends consumes,
    run, ends, ?_, run.words_eq, run.remaining_eq, ?_⟩
  · exact fun others place shorter => run.isPrefix ends shorter
  · exact fun reader follows => run.readerMany_eq ends consumes follows

/-- An operator and its operand. -/
def subOperation : Attempt (Operator × Int64) := (word Operator.parse?).pair (word int64?)

/-- In front of the last operator there is no item, because no operand is behind it. The attempt
that finds this out has taken the operator; for the list, the operator is still there. -/
theorem lists_take_the_longest_run_readAhead :
    subOperation.Consumes ∧
      ∃ items, items.map Prod.snd = [(.add, 1), (.sub, 2)] ∧
        subOperation.many (.ofLine "+ 1 - 2 * x".toList) =
          some (some (items.map Prod.snd), .unseen " * x".toList) ∧
        subOperation.Consecutive (.ofLine "+ 1 - 2 * x".toList) items (.unseen " * x".toList) ∧
        subOperation (.unseen " * x".toList) = (none, .seen ['x'] []) ∧
        Cursor.remaining (.ofLine "+ 1 - 2 * x".toList) =
          (items.map fun taken => taken.1.length).sum + 2 := by
  have consumes : subOperation.Consumes := consumes_pair (consumes_word _) (consumes_word _)
  have first : subOperation (.ofLine "+ 1 - 2 * x".toList) =
      (some (.add, 1), .unseen " - 2 * x".toList) := by decide
  have second : subOperation (.unseen " - 2 * x".toList) =
      (some (.sub, 2), .unseen " * x".toList) := by decide
  have missing : subOperation (.unseen " * x".toList) = (none, .seen ['x'] []) := by decide
  have both : subOperation.many (.ofLine "+ 1 - 2 * x".toList) =
      some (some [(.add, 1), (.sub, 2)], .unseen " * x".toList) := by
    have six : Cursor.remaining (.ofLine "+ 1 - 2 * x".toList) = 6 := by decide
    rw [many, six, manyWithin_of_some first, manyWithin_of_some second,
      manyWithin_of_none (congrArg Prod.fst missing)]
    rfl
  obtain ⟨items, stop, -, found, run, -, -, -, counted, -⟩ :=
    lists_take_the_longest_run consumes (.ofLine "+ 1 - 2 * x".toList)
  obtain ⟨same, rfl⟩ := Prod.mk.inj (Option.some.inj (found.symm.trans both))
  have two : Cursor.remaining (.unseen " * x".toList) = 2 := by decide
  rw [two] at counted
  exact ⟨consumes, items, Option.some.inj same, found, run, missing, counted⟩

end Attempt

/-! ## Fields -/

/-- A field is looked for in finite time, and a cursor gives and leaves what a reader gives and
leaves of its words. -/
theorem Field.attempt_of_take? (field : Field) (start : Cursor) :
    match field.take? start.words with
    | some (value, rest) =>
        ∃ stop, field.attempt start = some (some value, stop) ∧ stop.words = rest
    | none => ∃ stop, field.attempt start = some (none, stop) ∧ stop.words = start.words := by
  cases field with
  | one scalar =>
      have follows := Attempt.follows_word scalar.read?
      have unread := @Attempt.words_word_of_none _ start scalar.read?
      have taken : (Field.one scalar).take? start.words =
          Reader.word scalar.read? start.words := rfl
      rw [taken, attempt]
      cases looked : Attempt.word scalar.read? start with
      | mk value? stop =>
          rw [looked] at unread
          cases value? with
          | some value =>
              rw [follows.of_some looked]
              exact ⟨stop, rfl, rfl⟩
          | none =>
              rw [follows.of_none (congrArg Prod.fst looked)]
              exact ⟨stop, rfl, unread rfl⟩
  | many scalar =>
      have consumes := Attempt.consumes_word scalar.read?
      obtain ⟨items, stop, run, ends⟩ := Attempt.exists_consecutive consumes start
      have read := run.readerMany_eq ends consumes (Attempt.follows_word scalar.read?)
      have taken : (Field.many scalar).take? start.words =
          some (Reader.many (Reader.word scalar.read?) start.words) := rfl
      rw [taken, read]
      exact ⟨stop, run.many_eq ends consumes, rfl⟩

end ArithmeticCloud.Wire
