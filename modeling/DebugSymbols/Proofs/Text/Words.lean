import DebugSymbols.Text.Blank
import Mathlib.Data.List.TakeWhile
/-!
# What words are made of

The words of a text are its longest runs of characters that are not blank, and
no other division of the text has this property.  Since a newline is blank,
what has no blanks stays on one line.
-/

namespace DebugSymbols.Text

variable {text word : List Char}

/-- The text consists of the runs in order and of blanks around them.  A run is not empty and has no
blank, and it goes on until a blank or to the end. -/
inductive Runs : List Char → List (List Char) → Prop where
  | blank {gap : List Char} (blanks : ∀ character ∈ gap, isBlank character = true) : Runs gap []
  | word {gap run rest : List Char} {others : List (List Char)}
      (blanks : ∀ character ∈ gap, isBlank character = true) (nonempty : run ≠ [])
      (solid : ∀ character ∈ run, isBlank character = false)
      (ended : ∀ character ∈ rest.head?, isBlank character = true) (more : Runs rest others) :
      Runs (gap ++ run ++ rest) (run :: others)

theorem words_of_dropWhile_eq_nil (nothing : text.dropWhile isBlank = []) : words text = [] := by
  rw [words]
  split
  case h_1 => rfl
  case h_2 found =>
    rw [nothing] at found
    cases found

theorem words_of_dropWhile_eq_cons {rest : List Char} {first : Char}
    (here : text.dropWhile isBlank = first :: rest) :
    words text = (first :: rest.takeWhile fun character => !isBlank character) ::
      words (rest.dropWhile fun character => !isBlank character) := by
  rw [words]
  split
  case h_1 found =>
    rw [here] at found
    cases found
  case h_2 found =>
    rw [here] at found
    cases found
    rfl

/-- Only what stands behind the first blanks matters. -/
theorem words_gap_append {gap : List Char} (blanks : ∀ character ∈ gap, isBlank character = true)
    (rest : List Char) : words (gap ++ rest) = words rest := by
  have same : (gap ++ rest).dropWhile isBlank = rest.dropWhile isBlank :=
    List.dropWhile_append_of_pos blanks
  cases found : rest.dropWhile isBlank with
  | nil =>
      rw [words_of_dropWhile_eq_nil found, words_of_dropWhile_eq_nil (same.trans found)]
  | cons first others =>
      rw [words_of_dropWhile_eq_cons found, words_of_dropWhile_eq_cons (same.trans found)]

/-- A text is cut where a property of characters first fails. -/
theorem takeWhile_dropWhile_append {property : Char → Bool} {front rest : List Char}
    (going : ∀ character ∈ front, property character = true)
    (stopped : ∀ character ∈ rest.head?, property character = false) :
    (front ++ rest).takeWhile property = front ∧ (front ++ rest).dropWhile property = rest := by
  rw [List.takeWhile_append_of_pos going, List.dropWhile_append_of_pos going]
  cases rest with
  | nil => exact ⟨List.append_nil front, rfl⟩
  | cons first others =>
      rw [List.takeWhile_cons, List.dropWhile_cons, stopped first rfl]
      exact ⟨List.append_nil front, rfl⟩

/-- A run at the beginning of a text is its first word. -/
theorem words_run_append {run rest : List Char} (nonempty : run ≠ [])
    (solid : ∀ character ∈ run, isBlank character = false)
    (ended : ∀ character ∈ rest.head?, isBlank character = true) :
    words (run ++ rest) = run :: words rest := by
  cases run with
  | nil => exact absurd rfl nonempty
  | cons first others =>
      obtain ⟨start, behind⟩ := List.forall_mem_cons.1 solid
      have going : ∀ character ∈ others, (!isBlank character) = true := by
        intro character member
        rw [behind character member]
        rfl
      have stopped : ∀ character ∈ rest.head?, (!isBlank character) = false := by
        intro character member
        rw [ended character member]
        rfl
      have here : (first :: others ++ rest).dropWhile isBlank = first :: (others ++ rest) := by
        rw [List.cons_append, List.dropWhile_cons, start]
        rfl
      obtain ⟨taken, left⟩ := takeWhile_dropWhile_append going stopped
      rw [words_of_dropWhile_eq_cons here, taken, left]

theorem runs_words (text : List Char) : Runs text (words text) := by
  fun_induction words text with
  | case1 text blank =>
      exact .blank (List.dropWhile_eq_nil_iff.1 blank)
  | case2 text first rest found ih =>
      let others := rest.takeWhile fun character => !isBlank character
      let behind := rest.dropWhile fun character => !isBlank character
      have start := List.head?_dropWhile_not isBlank text
      rw [found] at start
      have solid : ∀ character ∈ first :: others, isBlank character = false := by
        refine List.forall_mem_cons.2 ⟨by simpa using start, fun character member => ?_⟩
        simpa using List.mem_takeWhile_imp member
      have ended : ∀ character ∈ behind.head?, isBlank character = true := by
        intro character member
        have stopped := List.head?_dropWhile_not (fun character => !isBlank character) rest
        rw [Option.mem_def.1 member] at stopped
        simpa using stopped
      have blanks : ∀ character ∈ text.takeWhile isBlank, isBlank character = true :=
        fun character => List.mem_takeWhile_imp
      have whole : text = text.takeWhile isBlank ++ (first :: others) ++ behind := by
        rw [List.append_assoc, List.cons_append, List.takeWhile_append_dropWhile, ← found,
          List.takeWhile_append_dropWhile]
      have runs := Runs.word blanks (List.cons_ne_nil first others) solid ended ih
      rwa [← whole] at runs

theorem words_eq_of_runs {runs : List (List Char)} (divided : Runs text runs) :
    words text = runs := by
  induction divided with
  | blank blanks => exact words_of_dropWhile_eq_nil (List.dropWhile_eq_nil_iff.2 blanks)
  | word blanks nonempty solid ended more ih =>
      rw [List.append_assoc, words_gap_append blanks, words_run_append nonempty solid ended, ih]

/-- The words are the only runs of a text. -/
theorem runs_iff_words_eq {runs : List (List Char)} : Runs text runs ↔ words text = runs := by
  constructor
  · exact words_eq_of_runs
  · rintro rfl
    exact runs_words text

/-- Runs that each stand behind a space are the words of the whole. -/
theorem words_flatMap {runs : List (List Char)}
    (solid : ∀ run ∈ runs, run ≠ [] ∧ ∀ character ∈ run, isBlank character = false) :
    words (runs.flatMap (' ' :: ·)) = runs := by
  induction runs with
  | nil => exact words_of_dropWhile_eq_nil rfl
  | cons run others ih =>
      obtain ⟨⟨nonempty, here⟩, later⟩ := List.forall_mem_cons.1 solid
      have space : ∀ character ∈ [' '], isBlank character = true :=
        List.forall_mem_singleton.2 (by decide)
      have ended : ∀ character ∈ (others.flatMap (' ' :: ·)).head?, isBlank character = true := by
        intro character first
        cases others with
        | nil => cases first
        | cons next rest =>
            cases first
            decide
      have whole : (run :: others).flatMap (' ' :: ·) =
          [' '] ++ (run ++ others.flatMap (' ' :: ·)) := rfl
      rw [whole, words_gap_append space, words_run_append nonempty here ended, ih later]

/-! ## Characters of words -/

/-- A run is not empty, and its characters are not blank and stand in the text. -/
theorem Runs.of_mem {runs : List (List Char)} (divided : Runs text runs) (member : word ∈ runs) :
    word ≠ [] ∧ (∀ character ∈ word, isBlank character = false) ∧ word ⊆ text := by
  induction divided with
  | blank blanks => cases member
  | word blanks nonempty solid ended more ih =>
      rcases List.mem_cons.1 member with rfl | later
      · refine ⟨nonempty, solid, fun character inside => ?_⟩
        exact List.mem_append_left _ (List.mem_append_right _ inside)
      · obtain ⟨full, clean, inside⟩ := ih later
        exact ⟨full, clean, fun character here => List.mem_append_right _ (inside here)⟩

/-- Words have no blanks. -/
theorem isBlank_of_mem_words (member : word ∈ words text) {character : Char}
    (inside : character ∈ word) : isBlank character = false :=
  ((runs_words text).of_mem member).2.1 character inside

theorem newline_not_mem_of_solid (solid : ∀ character ∈ text, isBlank character = false) :
    '\n' ∉ text := by
  intro member
  have blank : isBlank '\n' = true := by decide
  exact Bool.false_ne_true ((solid '\n' member).symm.trans blank)

end DebugSymbols.Text
