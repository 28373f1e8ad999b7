import ArithmeticCloud.Proofs.Arithmetic.OperatorSets
import ArithmeticCloud.Proofs.Node.Histories
import ArithmeticCloud.Proofs.Text.NumeralForms

/-!
Contract: the lines of a node's records.

Owns:
- columns in front of a separator, and the texts that have such a column;
- the line of a record, which is read back whatever its numbers and its result are;
- the lines that are read as records: five columns, each ended by one space, and a result
  that may hold spaces of its own;
- what a node sends when it is asked for its history.

Does not own: who reads it.
-/

namespace ArithmeticCloud

open Node Text Transport Wire

/-- A column ends at the first separator. -/
theorem Text.columns_append {separator : Char} {column : List Char} (absent : separator ∉ column)
    (cuts : Nat) (rest : List Char) :
    columns separator (cuts + 1) (column ++ separator :: rest) =
      column :: columns separator cuts rest := by
  have inside : ∀ c ∈ column, (c != separator) = true := by
    intro c member
    rw [bne_iff_ne]
    rintro rfl
    exact absent member
  have ends : ∀ c ∈ (separator :: rest).head?, (c != separator) = false := by
    intro c first
    rw [Option.mem_some.mp first, bne_self_eq_false]
  obtain ⟨front, back⟩ := run_append inside ends
  simp only [columns, front, back]

/-- There is a column behind the first one exactly if there is a separator behind it. -/
theorem Text.columns_eq_cons_cons_iff {separator : Char} {cuts : Nat} {text column next : List Char}
    {others : List (List Char)} :
    columns separator (cuts + 1) text = column :: next :: others ↔
      ∃ rest, separator ∉ column ∧ text = column ++ separator :: rest ∧
        columns separator cuts rest = next :: others := by
  constructor
  · intro cut
    have whole : text.takeWhile (· != separator) ++ text.dropWhile (· != separator) = text :=
      List.takeWhile_append_dropWhile
    have stops := List.head?_dropWhile_not (· != separator) text
    rw [columns] at cut
    cases behind : text.dropWhile (· != separator) with
    | nil =>
        rw [behind] at cut
        cases cut
    | cons found rest =>
        rw [behind] at cut whole stops
        obtain ⟨rfl, later⟩ := List.cons.inj cut
        obtain rfl : found = separator := by simpa using stops
        refine ⟨rest, fun member => ?_, whole.symm, later⟩
        have different := List.mem_takeWhile_imp member
        rw [bne_self_eq_false] at different
        cases different
  · rintro ⟨rest, absent, rfl, later⟩
    rw [columns_append absent, later]

/-! ## Results -/

/-- A result is a numeral or the text for a division by zero, with any blanks around it. -/
def Reply.Spelled : Reply → List Char → Prop
  | .value number, text => ∃ numeral, TrimsTo text numeral ∧ IsInteger numeral number.toInt
  | .divisionByZero, text => TrimsTo text divisionText

theorem Reply.not_isInteger_divisionText (value : Int) : ¬ IsInteger divisionText value := by
  rw [← integer?_eq_some_iff]
  have refused : integer? divisionText = none := by decide
  rw [refused]
  exact nofun

theorem Reply.parse?_eq_some_iff {text : List Char} {reply : Reply} :
    parse? text = some reply ↔ reply.Spelled text := by
  unfold parse?
  split
  · next divided =>
      have trims := trim_eq_iff.mp divided
      cases reply with
      | value number =>
          refine ⟨nofun, ?_⟩
          rintro ⟨numeral, isNumeral, isInteger⟩
          obtain rfl := divided.symm.trans (trim_eq_iff.mpr isNumeral)
          exact absurd isInteger (not_isInteger_divisionText number.toInt)
      | divisionByZero => exact ⟨fun _ => trims, fun _ => rfl⟩
  · next undivided =>
      rw [Option.map_eq_some_iff]
      cases reply with
      | value number =>
          constructor
          · rintro ⟨read, isInteger, same⟩
            obtain rfl := Reply.value.inj same
            exact ⟨trim text, trimsTo_trim text, int64?_eq_some_iff.mp isInteger⟩
          · rintro ⟨numeral, isNumeral, isInteger⟩
            obtain rfl := trim_eq_iff.mpr isNumeral
            exact ⟨number, int64?_eq_some_iff.mpr isInteger, rfl⟩
      | divisionByZero =>
          constructor
          · rintro ⟨read, -, same⟩
            cases same
          · intro divided
            exact absurd (trim_eq_iff.mpr divided) undivided

namespace Node.ComputeRecord

/-! ## The grammar -/

/-- Between the blanks at its ends, the line is two numerals, an operator, a numeral and an
equals sign, each with one space behind it, and then the result. -/
def Spelled (record : ComputeRecord) (line : List Char) : Prop :=
  ∃ timestamp left right result,
    TrimsTo line (timestamp ++ ' ' :: (left ++ ' ' :: ([record.operator.symbol] ++
      ' ' :: (right ++ ' ' :: (['='] ++ ' ' :: result))))) ∧
    IsInteger timestamp record.timestamp.toInt ∧ IsInteger left record.left.toInt ∧
    IsInteger right record.right.toInt ∧ record.result.Spelled result

theorem space_not_mem_of_isInteger {numeral : Word} {value : Int}
    (isInteger : IsInteger numeral value) : ' ' ∉ numeral := by
  obtain ⟨run, magnitude, isRun, signed⟩ := isInteger
  have inRun : ' ' ∉ run := fun member => absurd (isRun.digits ' ' member) (by decide)
  rcases signed with ⟨rfl | rfl, -⟩ | ⟨rfl, -⟩
  · exact inRun
  · simpa using inRun
  · simpa using inRun

theorem parse?_eq_some_iff {line : List Char} {record : ComputeRecord} :
    parse? line = some record ↔ record.Spelled line := by
  have symbol (operator : Operator) : ' ' ∉ [operator.symbol] := by
    cases operator <;> decide
  have equals : ' ' ∉ ['='] := by decide
  constructor
  · intro read
    unfold parse? at read
    split at read
    · next timestamp left operator right result cut =>
        simp only [Option.bind_eq_bind, Option.bind_eq_some_iff, Option.pure_def,
          Option.some.injEq, int64?_eq_some_iff, Operator.parse?_eq_some_iff,
          Reply.parse?_eq_some_iff] at read
        obtain ⟨_, isTimestamp, _, isLeft, operator, rfl, _, isRight, _, isResult, rfl⟩ := read
        simp only [columns_eq_cons_cons_iff] at cut
        obtain ⟨_, -, whole, _, -, rfl, _, -, rfl, _, -, rfl, _, -, rfl, last⟩ := cut
        obtain ⟨rfl, -⟩ := List.cons.inj last
        exact ⟨timestamp, left, right, _, trim_eq_iff.mp whole, isTimestamp, isLeft, isRight,
          isResult⟩
    · cases read
  · rintro ⟨timestamp, left, right, result, trims, isTimestamp, isLeft, isRight, isResult⟩
    -- Only the result can hold spaces, and it is behind the last cut.
    have cut : columns ' ' 5 (trim line) =
        [timestamp, left, [record.operator.symbol], right, ['='], result] := by
      rw [trim_eq_iff.mpr trims, columns_append (space_not_mem_of_isInteger isTimestamp),
        columns_append (space_not_mem_of_isInteger isLeft), columns_append (symbol _),
        columns_append (space_not_mem_of_isInteger isRight), columns_append equals, columns]
    have isOperator := Operator.parse?_eq_some_iff.mpr (Eq.refl [record.operator.symbol])
    simp only [parse?, cut, int64?_eq_some_iff.mpr isTimestamp, int64?_eq_some_iff.mpr isLeft,
      isOperator, int64?_eq_some_iff.mpr isRight, Reply.parse?_eq_some_iff.mpr isResult,
      Option.bind_eq_bind, Option.bind_some, Option.pure_def]

/-! ## Lines -/

theorem text_eq (record : ComputeRecord) :
    record.text = ofInt64 record.timestamp ++ ' ' :: (ofInt64 record.left ++
      ' ' :: ([record.operator.symbol] ++ ' ' :: (ofInt64 record.right ++
        ' ' :: (['='] ++ ' ' :: record.result.text)))) := by
  simp only [text, untimedText, List.append_assoc, List.cons_append, List.nil_append]

/-- A result ends in a letter, so that trimming a line leaves it whole. -/
theorem ends_of_result (reply : Reply) :
    reply.text ≠ [] ∧ ∀ c ∈ reply.text.getLast?, isBlank c = false := by
  cases reply with
  | value number =>
      obtain ⟨nonempty, letters⟩ := unbroken_numeral number.toInt
      exact ⟨nonempty, fun c last => letters c (List.mem_of_getLast? last)⟩
  | divisionByZero =>
      have last : Reply.divisionText.getLast? = some '0' := by decide
      refine ⟨by decide, fun c isLast => ?_⟩
      obtain rfl := Option.some.inj (last.symm.trans isLast)
      decide

theorem trim_text (record : ComputeRecord) : trim record.text = record.text := by
  have word : Unbroken (ofInt64 record.timestamp) := unbroken_numeral record.timestamp.toInt
  obtain ⟨some, ends⟩ := ends_of_result record.result
  apply trim_of_ends
  · intro c first
    rw [text, List.head?_append_of_ne_nil _ word.1] at first
    exact word.2 c (List.mem_of_mem_head? first)
  · intro c last
    have split : record.text = (ofInt64 record.timestamp ++ ' ' :: (ofInt64 record.left ++
        ' ' :: record.operator.symbol :: ' ' :: ofInt64 record.right ++ [' ', '=', ' '])) ++
          record.result.text := by
      simp only [text, untimedText, List.append_assoc, List.cons_append, List.nil_append]
    rw [split, List.getLast?_append_of_ne_nil _ some] at last
    exact ends c last

theorem spelled_text (record : ComputeRecord) : record.Spelled record.text := by
  have isNumeral (value : Int64) : IsInteger (ofInt64 value) value.toInt :=
    int64?_eq_some_iff.mp (int64?_ofInt64 value)
  refine ⟨ofInt64 record.timestamp, ofInt64 record.left, ofInt64 record.right, record.result.text,
    ?_, isNumeral _, isNumeral _, isNumeral _, ?_⟩
  · rw [← text_eq]
    exact trim_eq_iff.mp record.trim_text
  · exact Reply.parse?_eq_some_iff.mp (Reply.parse?_text record.result)

/-- A record is read back from its line, whatever it holds. -/
theorem parse?_text (record : ComputeRecord) : parse? record.text = some record :=
  parse?_eq_some_iff.mpr record.spelled_text

theorem isLine_text (record : ComputeRecord) : IsLine (String.ofList record.text) := by
  apply isLine_of_letters
  rw [String.toList_ofList]
  intro c member
  have numeral (value : Int64) (inside : c ∈ ofInt64 value) : c ≠ '\n' ∧ c ≠ '\r' :=
    ne_ending_of_letter ((unbroken_numeral value.toInt).2 c inside)
  have symbol (operator : Operator) : operator.symbol ≠ '\n' ∧ operator.symbol ≠ '\r' := by
    cases operator <;> decide
  simp only [text_eq, List.mem_append, List.mem_cons, List.not_mem_nil, or_false] at member
  rcases member with inside | rfl | inside | rfl | rfl | rfl | inside | rfl | rfl | rfl | inside
  · exact numeral _ inside
  · decide
  · exact numeral _ inside
  · decide
  · exact symbol _
  · decide
  · exact numeral _ inside
  · decide
  · decide
  · decide
  · exact Reply.ne_ending_of_mem_text inside

/-- A line is read as a record exactly if it spells this record: five columns with one space
behind each, and a result that may have blanks around it and spaces in it. The line of every
record, whatever its numbers and its result are, is read as this record, so that writing a
record that was read and reading it again changes nothing. -/
theorem records_are_read_as_spelled :
    (∀ record, parse? record.text = some record) ∧
    (∀ line record, parse? line = some record ↔ record.Spelled line) ∧
    ∀ line, ((parse? line).map ComputeRecord.text).bind parse? = parse? line := by
  refine ⟨parse?_text, fun line record => parse?_eq_some_iff, fun line => ?_⟩
  cases parse? line with
  | none => rfl
  | some record => exact parse?_text record

/-- Blanks of several kinds around a line and its result, and signs at three places. -/
example : parse? "\t+17 -7 - -07 =  \t +14\n".toList = some ⟨17, -7, .sub, -7, .value 14⟩ := by
  decide +kernel

end Node.ComputeRecord

/-! ## Answers -/

namespace Node.Server

/-- Over a connection of its own, a node sends the lines of its records and closes. -/
theorem lines_of_getLogs (server : Server) (now : Int64) :
    (server.serveStream now (streamOf [NodeRequest.getLogs.encode])).1 =
      server.history.records.map fun record => String.ofList record.text := by
  rw [serveStream_encode]
  rfl

end Node.Server

end ArithmeticCloud
