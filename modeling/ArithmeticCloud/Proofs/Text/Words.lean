import ArithmeticCloud.Text.Blank
import Mathlib.Data.List.TakeWhile

/-!
Contract: the words of texts, and of texts that are put together from words.

Owns: the end of a run in front of what does not go on with it; `words` of a text with
a blank in it, of one word, and of a text that is cut off; `trim` of a text without blanks
at its ends, and as what is left between the blanks; `words` as the parts that a text splits
into at its blanks, one after the other.

Does not own: what words mean.
-/

namespace ArithmeticCloud.Text

/-- A run ends where the first item follows that does not belong to it. -/
theorem run_append {α : Type} {belongs : α → Bool} {run rest : List α}
    (inside : ∀ item ∈ run, belongs item = true)
    (ends : ∀ item ∈ rest.head?, belongs item = false) :
    (run ++ rest).takeWhile belongs = run ∧ (run ++ rest).dropWhile belongs = rest := by
  have stops : rest.takeWhile belongs = [] ∧ rest.dropWhile belongs = rest := by
    cases rest with
    | nil => exact ⟨rfl, rfl⟩
    | cons first others =>
        have outside : ¬ belongs first = true := Bool.eq_false_iff.mp (ends first rfl)
        exact ⟨List.takeWhile_cons_of_neg outside, List.dropWhile_cons_of_neg outside⟩
  constructor
  · rw [List.takeWhile_append_of_pos inside, stops.1, List.append_nil]
  · rw [List.dropWhile_append_of_pos inside, stops.2]

/-- Characters that stand together as one word. -/
def Unbroken (word : Word) : Prop := word ≠ [] ∧ ∀ c ∈ word, isBlank c = false

instance (word : Word) : Decidable (Unbroken word) :=
  @instDecidableAnd _ _ inferInstance (List.decidableBAll (fun c => isBlank c = false) word)

/-- A text without blanks at its ends is trimmed already. -/
theorem trim_of_ends {text : List Char} (first : ∀ c ∈ text.head?, isBlank c = false)
    (last : ∀ c ∈ text.getLast?, isBlank c = false) : trim text = text := by
  have keeps {letters : List Char} (first : ∀ c ∈ letters.head?, isBlank c = false) :
      letters.dropWhile isBlank = letters := (run_append (List.forall_mem_nil _) first).2
  rw [← List.head?_reverse] at last
  rw [trim, keeps first, keeps last, List.reverse_reverse]

theorem trim_of_unbroken {word : Word} (unbroken : Unbroken word) : trim word = word := by
  obtain ⟨-, letters⟩ := unbroken
  apply trim_of_ends
  · exact fun c first => letters c (List.mem_of_mem_head? first)
  · exact fun c last => letters c (List.mem_of_getLast? last)

/-- The text is the inner text between blanks, and the inner text has no blank at its ends. -/
def TrimsTo (text inner : List Char) : Prop :=
  ∃ front back, (∀ c ∈ front, isBlank c = true) ∧ (∀ c ∈ back, isBlank c = true) ∧
    text = front ++ (inner ++ back) ∧
    (∀ c ∈ inner.head?, isBlank c = false) ∧ ∀ c ∈ inner.getLast?, isBlank c = false

theorem head?_dropWhile_isBlank (text : List Char) :
    ∀ c ∈ (text.dropWhile isBlank).head?, isBlank c = false := by
  intro c first
  have notBlank := List.head?_dropWhile_not isBlank text
  rw [Option.mem_def.mp first] at notBlank
  simpa using notBlank

theorem trimsTo_trim (text : List Char) : TrimsTo text (trim text) := by
  have inFront : text.takeWhile isBlank ++ text.dropWhile isBlank = text :=
    List.takeWhile_append_dropWhile
  generalize rest : text.dropWhile isBlank = letters at inFront
  have noFront : ∀ c ∈ letters.head?, isBlank c = false := rest ▸ head?_dropWhile_isBlank text
  have behind : letters = trim text ++ (letters.reverse.takeWhile isBlank).reverse := by
    rw [trim, rest, ← List.reverse_append, List.takeWhile_append_dropWhile, List.reverse_reverse]
  refine ⟨text.takeWhile isBlank, (letters.reverse.takeWhile isBlank).reverse, ?_, ?_, ?_, ?_, ?_⟩
  · exact fun c member => List.mem_takeWhile_imp member
  · exact fun c member => List.mem_takeWhile_imp (List.mem_reverse.mp member)
  · rw [← behind, inFront]
  · intro c first
    rw [behind] at noFront
    exact noFront c (by rw [List.head?_append, Option.mem_def.mp first]; rfl)
  · intro c last
    rw [trim, List.getLast?_reverse] at last
    exact head?_dropWhile_isBlank _ c last

/-- Trimming gives the only text that is left between the blanks. -/
theorem trim_eq_iff {text inner : List Char} : trim text = inner ↔ TrimsTo text inner := by
  constructor
  · rintro rfl
    exact trimsTo_trim text
  · rintro ⟨front, back, blanksInFront, blanksBehind, rfl, first, last⟩
    rw [trim, List.dropWhile_append_of_pos blanksInFront]
    cases inner with
    | nil =>
        rw [List.nil_append, List.dropWhile_eq_nil_iff.mpr blanksBehind]
        rfl
    | cons c others =>
        have letter : ¬ isBlank c = true := Bool.eq_false_iff.mp (first c rfl)
        have startsWith : ((c :: others) ++ back).dropWhile isBlank = (c :: others) ++ back :=
          List.dropWhile_cons_of_neg letter
        have reversed : ∀ c ∈ back.reverse, isBlank c = true :=
          fun c member => blanksBehind c (List.mem_reverse.mp member)
        rw [← List.head?_reverse] at last
        rw [startsWith, List.reverse_append, (run_append reversed last).2, List.reverse_reverse]

/-! ## The first character -/

theorem words_singleton {c : Char} (letter : isBlank c = false) : words [c] = [[c]] := by
  simp [words, letter]

theorem words_cons_ne_nil {c : Char} (rest : List Char) (letter : isBlank c = false) :
    words (c :: rest) ≠ [] := by
  unfold words
  rw [if_neg (by simp [letter])]
  split
  · split <;> simp
  · simp

theorem words_letter_cons {c : Char} (next : Char) (rest : List Char) (letter : isBlank c = false) :
    words (c :: next :: rest) =
      match words (next :: rest) with
      | [] => [[c]]
      | word :: others => if isBlank next then [c] :: word :: others else (c :: word) :: others := by
  rw [words.eq_def]
  dsimp only
  rw [if_neg (by simp [letter])]
  generalize words (next :: rest) = tail
  cases tail <;> rfl

theorem words_letter_blank {c next : Char} (rest : List Char) (letter : isBlank c = false)
    (blank : isBlank next = true) : words (c :: next :: rest) = [c] :: words rest := by
  rw [words_letter_cons next rest letter, words_cons_blank rest blank]
  cases words rest with
  | nil => rfl
  | cons word others => simp [blank]

theorem words_letter_letter {c next : Char} (rest : List Char) (letter : isBlank c = false)
    (nextLetter : isBlank next = false) :
    words (c :: next :: rest) = (words (next :: rest)).modifyHead (c :: ·) := by
  rw [words_letter_cons next rest letter]
  cases found : words (next :: rest) with
  | nil => exact absurd found (words_cons_ne_nil rest nextLetter)
  | cons word others => simp [nextLetter]

/-- Every word of a text is unbroken. -/
theorem unbroken_of_mem_words {text : List Char} {word : Word} (member : word ∈ words text) :
    Unbroken word := by
  induction text generalizing word with
  | nil => cases member
  | cons c rest inductionHypothesis =>
      by_cases blank : isBlank c = true
      · rw [words_cons_blank rest blank] at member
        exact inductionHypothesis member
      · have letter : isBlank c = false := by simpa using blank
        have alone : Unbroken [c] := ⟨by simp, by simpa using letter⟩
        cases rest with
        | nil =>
            rw [words_singleton letter, List.mem_singleton] at member
            exact member ▸ alone
        | cons next others =>
            by_cases nextBlank : isBlank next = true
            · rw [words_letter_blank others letter nextBlank] at member
              rw [words_cons_blank others nextBlank] at inductionHypothesis
              rcases List.mem_cons.mp member with rfl | later
              · exact alone
              · exact inductionHypothesis later
            · have nextLetter : isBlank next = false := by simpa using nextBlank
              rw [words_letter_letter others letter nextLetter] at member
              cases found : words (next :: others) with
              | nil => exact absurd found (words_cons_ne_nil others nextLetter)
              | cons first later =>
                  rw [found, List.modifyHead_cons] at member
                  rw [found] at inductionHypothesis
                  rcases List.mem_cons.mp member with rfl | inLater
                  · obtain ⟨-, letters⟩ := inductionHypothesis List.mem_cons_self
                    exact ⟨by simp, List.forall_mem_cons.mpr ⟨letter, letters⟩⟩
                  · exact inductionHypothesis (List.mem_cons_of_mem first inLater)

/-! ## Texts put together -/

/-- A blank separates the words in front of it from those after it. -/
theorem words_append_blank {blank : Char} (isSeparator : isBlank blank = true)
    (left right : List Char) : words (left ++ blank :: right) = words left ++ words right := by
  induction left with
  | nil => exact words_cons_blank right isSeparator
  | cons c others inductionHypothesis =>
      by_cases skipped : isBlank c = true
      · rw [List.cons_append, words_cons_blank _ skipped, words_cons_blank _ skipped,
          inductionHypothesis]
      · have letter : isBlank c = false := by simpa using skipped
        cases others with
        | nil =>
            rw [words_singleton letter]
            exact words_letter_blank right letter isSeparator
        | cons next rest =>
            by_cases nextBlank : isBlank next = true
            · rw [List.cons_append, List.cons_append, words_letter_blank _ letter nextBlank,
                words_letter_blank _ letter nextBlank, List.cons_append]
              rw [List.cons_append, words_cons_blank _ nextBlank,
                words_cons_blank _ nextBlank] at inductionHypothesis
              rw [inductionHypothesis]
            · have nextLetter : isBlank next = false := by simpa using nextBlank
              rw [List.cons_append] at inductionHypothesis ⊢
              rw [List.cons_append, words_letter_letter _ letter nextLetter, inductionHypothesis,
                words_letter_letter _ letter nextLetter]
              cases found : words (next :: rest) with
              | nil => exact absurd found (words_cons_ne_nil rest nextLetter)
              | cons word others => rfl

theorem words_of_unbroken {word : Word} (unbroken : Unbroken word) : words word = [word] := by
  rcases unbroken with ⟨nonempty, letters⟩
  induction word with
  | nil => exact absurd rfl nonempty
  | cons c rest inductionHypothesis =>
      have letter : isBlank c = false := letters c List.mem_cons_self
      cases rest with
      | nil => exact words_singleton letter
      | cons next others =>
          have nextLetter : isBlank next = false := letters next (by simp)
          rw [words_letter_letter _ letter nextLetter, inductionHypothesis (by simp)
            fun other member => letters other (List.mem_cons_of_mem c member)]
          rfl

/-- The words of a text whose parts have a blank in front of each. -/
theorem words_flatMap_spaced {first : Word} (unbroken : Unbroken first) {others : List Word}
    (allUnbroken : ∀ word ∈ others, Unbroken word) :
    words (first ++ others.flatMap (' ' :: ·)) = first :: others := by
  induction others generalizing first with
  | nil =>
      rw [List.flatMap_nil, List.append_nil]
      exact words_of_unbroken unbroken
  | cons next rest inductionHypothesis =>
      have separator : isBlank ' ' = true := by decide
      rw [List.flatMap_cons, List.cons_append, words_append_blank separator,
        words_of_unbroken unbroken, inductionHypothesis (allUnbroken next List.mem_cons_self)
          fun word member => allUnbroken word (List.mem_cons_of_mem next member)]
      rfl

/-! ## Texts that are cut off -/

/-- A cut leaves every word, or it lies in front of a word or inside of it. -/
theorem cut_spaced_cases (parts : List Word) (cut : Nat) :
    (parts.flatMap (' ' :: ·)).length ≤ cut ∨
      ∃ front next back kept, parts = front ++ next :: back ∧
        cut = (front.flatMap (' ' :: ·)).length + kept ∧ kept ≤ next.length := by
  induction parts generalizing cut with
  | nil => exact .inl (Nat.zero_le cut)
  | cons word others inductionHypothesis =>
      have size : ((word :: others).flatMap (' ' :: ·)).length =
          word.length + 1 + (others.flatMap (' ' :: ·)).length := by
        rw [List.flatMap_cons, List.length_append, List.length_cons]
      rcases Nat.lt_or_ge word.length cut with behind | inside
      · rcases inductionHypothesis (cut - (word.length + 1)) with
          everything | ⟨front, next, back, kept, rfl, position, within⟩
        · exact .inl (by omega)
        · refine .inr ⟨word :: front, next, back, kept, rfl, ?_, within⟩
          rw [List.flatMap_cons, List.length_append, List.length_cons]
          omega
      · exact .inr ⟨[], word, others, cut, rfl, (Nat.zero_add cut).symm, inside⟩

theorem take_spaced (front back : List Word) {next : Word} {kept : Nat}
    (within : kept ≤ next.length) :
    ((front ++ next :: back).flatMap (' ' :: ·)).take ((front.flatMap (' ' :: ·)).length + kept) =
      front.flatMap (' ' :: ·) ++ (' ' :: next).take kept := by
  rw [List.flatMap_append, List.flatMap_cons, List.take_length_add_append,
    List.take_append_of_le_length (by rw [List.length_cons]; omega)]

/-- The words of a text that is cut off: what is left of the last one is a word. -/
theorem words_take_spaced {first : Word} (unbroken : Unbroken first) {front : List Word}
    {next : Word} (allUnbroken : ∀ word ∈ front ++ [next], Unbroken word) (kept : Nat) :
    words (first ++ (front.flatMap (' ' :: ·) ++ (' ' :: next).take kept)) =
      first :: (front ++ if next.take (kept - 1) = [] then [] else [next.take (kept - 1)]) := by
  rw [List.forall_mem_append] at allUnbroken
  obtain ⟨before, inside⟩ := allUnbroken
  have whole : words (first ++ front.flatMap (' ' :: ·)) = first :: front :=
    words_flatMap_spaced unbroken before
  cases kept with
  | zero => rw [List.take_zero, List.append_nil, whole, Nat.zero_sub, List.take_zero, if_pos rfl,
      List.append_nil]
  | succ letters =>
      have separator : isBlank ' ' = true := by decide
      rw [List.take_succ_cons, ← List.append_assoc, words_append_blank separator, whole,
        Nat.add_sub_cancel, List.cons_append]
      congr 2
      split
      · next nothing => rw [nothing, words_nil]
      · next something =>
          exact words_of_unbroken ⟨something, fun c member =>
            (inside next List.mem_cons_self).2 c (List.mem_of_mem_take member)⟩

/-! ## Words as the parts of a text -/

/-- The text is made of these words, with any blanks in front of each and behind the
last. A word goes on until a blank or the end of the text. -/
inductive SplitsInto : List Char → List Word → Prop where
  | blank {gap : List Char} (blanks : ∀ c ∈ gap, isBlank c = true) : SplitsInto gap []
  | word {gap rest : List Char} {word : Word} {others : List Word}
      (blanks : ∀ c ∈ gap, isBlank c = true) (unbroken : Unbroken word)
      (ends : ∀ c ∈ rest.head?, isBlank c = true) (later : SplitsInto rest others) :
      SplitsInto (gap ++ (word ++ rest)) (word :: others)

theorem SplitsInto.cons_blank {text : List Char} {parts : List Word} (split : SplitsInto text parts)
    {c : Char} (blank : isBlank c = true) : SplitsInto (c :: text) parts := by
  cases split with
  | blank blanks => exact .blank (List.forall_mem_cons.mpr ⟨blank, blanks⟩)
  | word blanks unbroken ends later =>
      exact .word (List.forall_mem_cons.mpr ⟨blank, blanks⟩) unbroken ends later

/-- A letter in front of a letter belongs to the first word. -/
theorem SplitsInto.cons_letter {next : Char} {text : List Char} {word : Word} {others : List Word}
    (split : SplitsInto (next :: text) (word :: others)) {c : Char} (letter : isBlank c = false)
    (nextLetter : isBlank next = false) : SplitsInto (c :: next :: text) ((c :: word) :: others) := by
  generalize whole : next :: text = letters at split
  cases split with
  | @word gap rest _ _ blanks unbroken ends later =>
      cases gap with
      | nil =>
          rw [List.nil_append]
          exact .word (List.forall_mem_nil _)
            ⟨by simp, List.forall_mem_cons.mpr ⟨letter, unbroken.2⟩⟩ ends later
      | cons first others =>
          obtain ⟨rfl, -⟩ := List.cons.inj whole
          rw [blanks next List.mem_cons_self] at nextLetter
          cases nextLetter

theorem splitsInto_words (text : List Char) : SplitsInto text (words text) := by
  induction text with
  | nil => exact .blank (List.forall_mem_nil _)
  | cons c rest inductionHypothesis =>
      by_cases blank : isBlank c = true
      · rw [words_cons_blank rest blank]
        exact inductionHypothesis.cons_blank blank
      · have letter : isBlank c = false := by simpa using blank
        have alone : Unbroken [c] := ⟨by simp, by simpa using letter⟩
        cases rest with
        | nil =>
            rw [words_singleton letter]
            exact @SplitsInto.word [] _ _ _ (List.forall_mem_nil _) alone (by simp) inductionHypothesis
        | cons next others =>
            by_cases nextBlank : isBlank next = true
            · rw [words_letter_blank others letter nextBlank, ← words_cons_blank others nextBlank]
              exact @SplitsInto.word [] _ _ _ (List.forall_mem_nil _) alone (by simpa using nextBlank)
                inductionHypothesis
            · have nextLetter : isBlank next = false := by simpa using nextBlank
              rw [words_letter_letter others letter nextLetter]
              cases found : words (next :: others) with
              | nil => exact absurd found (words_cons_ne_nil others nextLetter)
              | cons word later =>
                  rw [found] at inductionHypothesis
                  exact inductionHypothesis.cons_letter letter nextLetter

theorem words_of_blanks {gap : List Char} (blanks : ∀ c ∈ gap, isBlank c = true)
    (rest : List Char) : words (gap ++ rest) = words rest := by
  induction gap with
  | nil => rfl
  | cons c others inductionHypothesis =>
      rw [List.cons_append, words_cons_blank _ (blanks c List.mem_cons_self)]
      exact inductionHypothesis fun other member => blanks other (List.mem_cons_of_mem c member)

/-- `words` are the only parts that a text splits into. -/
theorem words_eq_iff {text : List Char} {parts : List Word} :
    words text = parts ↔ SplitsInto text parts := by
  constructor
  · rintro rfl
    exact splitsInto_words text
  · intro split
    induction split with
    | @blank gap blanks =>
        rw [← List.append_nil gap, words_of_blanks blanks, words_nil]
    | @word gap rest word others blanks unbroken ends later inductionHypothesis =>
        rw [words_of_blanks blanks]
        cases rest with
        | nil =>
            rw [List.append_nil, words_of_unbroken unbroken, ← inductionHypothesis, words_nil]
        | cons separator rest =>
            have isSeparator : isBlank separator = true := ends separator rfl
            rw [words_append_blank isSeparator, words_of_unbroken unbroken, ← inductionHypothesis,
              words_cons_blank rest isSeparator, List.singleton_append]

/-- The words of a text can be taken off it one after the other. -/
theorem words_eq_firstWord? (text : List Char) :
    words text =
      match firstWord? text with
      | some (word, behind) => word :: words behind
      | none => [] := by
  have whole : text.takeWhile isBlank ++ text.dropWhile isBlank = text :=
    List.takeWhile_append_dropWhile
  have blanks : ∀ c ∈ text.takeWhile isBlank, isBlank c = true :=
    fun c member => List.mem_takeWhile_imp member
  have letter := head?_dropWhile_isBlank text
  rw [words_eq_iff, firstWord?]
  cases rest : text.dropWhile isBlank with
  | nil =>
      rw [rest, List.append_nil] at whole
      rw [whole] at blanks
      exact .blank blanks
  | cons c others =>
      rw [rest] at whole letter
      have unbroken : Unbroken ((c :: others).takeWhile (!isBlank ·)) := by
        refine ⟨by simp [letter c rfl], fun other member => ?_⟩
        simpa using List.mem_takeWhile_imp member
      have ends : ∀ next ∈ ((c :: others).dropWhile (!isBlank ·)).head?, isBlank next = true := by
        intro next first
        have stops := List.head?_dropWhile_not (!isBlank ·) (c :: others)
        rw [Option.mem_def.mp first] at stops
        simpa using stops
      have split := SplitsInto.word blanks unbroken ends (splitsInto_words _)
      rwa [List.takeWhile_append_dropWhile, whole] at split

end ArithmeticCloud.Text
