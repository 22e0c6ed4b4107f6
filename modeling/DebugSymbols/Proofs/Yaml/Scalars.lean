import DebugSymbols.Yaml.Scalar.Plain
import DebugSymbols.Yaml.Scalar.Quoted
/-!
# Scalars on one line

A word is read as it stands, up to the colon of a key or to the end of its line.
Between single quotes any text of one line is read, with every quote in it
doubled.
-/

namespace DebugSymbols.Yaml

def isInline (character : Char) : Bool :=
  isAllowed character && !isBreak character && character != '\r' && character != '\x85'

def isInner (character : Char) : Bool :=
  isInline character && !isBlank character && character != ':'

/-- A scalar that needs no quotes. -/
structure IsWord (word : List Char) : Prop where
  nonempty : word ≠ []
  start : ∀ first ∈ word.head?, Plain.isIndicator first = false
  inner : ∀ character ∈ word, isInner character = true

theorem isWord_iff {word : List Char} :
    IsWord word ↔ word ≠ [] ∧ word.head?.all (!Plain.isIndicator ·) = true ∧
      word.all isInner = true := by
  simp only [Option.all_eq_true, List.all_eq_true, Bool.not_eq_true']
  exact ⟨fun ⟨nonempty, start, inner⟩ => ⟨nonempty, start, inner⟩,
    fun ⟨nonempty, start, inner⟩ => ⟨nonempty, start, inner⟩⟩

instance (word : List Char) : Decidable (IsWord word) :=
  decidable_of_iff' _ isWord_iff

theorem isInner_iff {character : Char} :
    isInner character = true ↔
      isInline character = true ∧ isBlank character = false ∧ character ≠ ':' := by
  simp [isInner, and_assoc]

theorem isBreak_of_isInline {character : Char} (inline : isInline character = true) :
    isBreak character = false := by
  simp only [isInline, Bool.and_eq_true, Bool.not_eq_true'] at inline
  exact inline.1.1.2

theorem isSpace_of_isInner {character : Char} (inner : isInner character = true) :
    isSpace (some character) = false := by
  obtain ⟨inline, blank, _⟩ := isInner_iff.1 inner
  simp [isSpace, blank, isBreak_of_isInline inline]

theorem atMarker_of_pos {column : Nat} {rest : List Char} (inside : 0 < column) :
    atMarker column rest = false := by
  simp [atMarker, Nat.ne_of_gt inside]

namespace Plain

variable {word rest found : List Char} {margin line column : Nat}

theorem scan_inner {character : Char} (inner : isInner character = true)
    (unmarked : atMarker column (character :: rest) = false) :
    scan false margin found {} line column (character :: rest) =
      scan false margin (character :: found) {} line (column + 1) rest := by
  obtain ⟨inline, blank, colon⟩ := isInner_iff.1 inner
  rw [scan]
  simp [blank, isBreak_of_isInline inline, endsBehind, Gap.isEmpty, Gap.crossesLine, unmarked, ends,
    colon, clashes, Gap.folded]

theorem scan_word (inner : ∀ character ∈ word, isInner character = true) (inside : 0 < column) :
    scan false margin found {} line column (word ++ rest) =
      scan false margin (word.reverse ++ found) {} line (column + word.length) rest := by
  induction word generalizing found column with
  | nil => rfl
  | cons character word ih =>
      have later := fun other mem => inner other (List.mem_cons_of_mem character mem)
      rw [List.cons_append,
        scan_inner (inner character List.mem_cons_self) (atMarker_of_pos inside),
        ih later (Nat.succ_pos column)]
      simp [Nat.add_assoc, Nat.add_comm 1]

/-- A word is read up to the colon that makes a key of it. -/
theorem read?_key (margin line : Nat) (isWord : IsWord word)
    (unmarked : marker? (word ++ ':' :: ' ' :: rest) = none) :
    read? false margin ⟨word ++ ':' :: ' ' :: rest, line, 0⟩ =
      some ⟨word, ⟨':' :: ' ' :: rest, line, word.length⟩, false⟩ := by
  obtain _ | ⟨first, word⟩ := word
  · exact absurd rfl isWord.nonempty
  · have inner := isWord.inner
    have start : atMarker 0 (first :: (word ++ ':' :: ' ' :: rest)) = false := by
      simpa [atMarker] using unmarked
    rw [read?, List.cons_append, scan_inner (inner first List.mem_cons_self) start,
      scan_word (fun other mem => inner other (List.mem_cons_of_mem _ mem)) Nat.one_pos, scan]
    simp [isBlank, isBreak, ends, isSpace, Gap.crossesLine, Nat.add_comm 1]

/-- A word is read up to the line behind its own, if that line is not indented. -/
theorem read?_value (line : Nat) (isWord : IsWord word) (inside : 0 < column)
    (next : ∀ first ∈ rest.head?, isInner first = true) :
    read? false 1 ⟨word ++ '\n' :: rest, line, column⟩ =
      some ⟨word, ⟨rest, line + 1, 0⟩, true⟩ := by
  have newline : isBlank '\n' = false ∧ isBreak '\n' = true := by decide
  rw [read?, scan_word isWord.inner inside, scan, List.append_nil]
  cases rest with
  | nil => simp [newline, scan, Gap.crossesLine, Gap.addBreak]
  | cons first rest =>
      obtain ⟨inline, blank, _⟩ := isInner_iff.1 (next first rfl)
      simp [newline, scan, Gap.crossesLine, Gap.addBreak, blank, isBreak_of_isInline inline,
        endsBehind, Gap.isEmpty]

end Plain

namespace Quoted

/-- A text as it stands between single quotes. -/
def doubled (text : List Char) : List Char :=
  text.flatMap fun character => if character = '\'' then ['\'', '\''] else [character]

variable {text rest found blanks : List Char} {character : Char} {line column : Nat}

theorem doubled_cons_quote (text : List Char) :
    doubled ('\'' :: text) = '\'' :: '\'' :: doubled text := by
  simp [doubled]

theorem doubled_cons (other : character ≠ '\'') (text : List Char) :
    doubled (character :: text) = character :: doubled text := by
  simp [doubled, other]

theorem scan_quote (inside : 0 < column) :
    scan .single .text found { blanks := blanks } line column ('\'' :: rest) =
      if rest.head? = some '\'' then
        scan .single .repeated (blanks ++ found) {} line (column + 1) rest
      else some ((blanks ++ found).reverse, ⟨rest, line, column + 1⟩) := by
  have quote : isBlank '\'' = false ∧ isBreak '\'' = false := by decide
  rw [scan]
  simp [quote, atMarker_of_pos inside, Quote.character, Gap.folded]

theorem scan_blank (blank : isBlank character = true) :
    scan .single .text found { blanks := blanks } line column (character :: rest) =
      scan .single .text found { blanks := character :: blanks } line (column + 1) rest := by
  rw [scan]
  simp [blank, Gap.addBlank, Gap.crossesLine]

theorem scan_inline (inline : isInline character = true) (visible : isBlank character = false)
    (other : character ≠ '\'') (inside : 0 < column) :
    scan .single .text found { blanks := blanks } line column (character :: rest) =
      scan .single .text (character :: (blanks ++ found)) {} line (column + 1) rest := by
  rw [scan]
  simp [visible, isBreak_of_isInline inline, atMarker_of_pos inside, Quote.character, other,
    Gap.folded]

/-- A text between quotes is read whole, with the blanks in it, since nothing crosses a line. -/
theorem scan_doubled (found blanks : List Char) (line column : Nat)
    (inline : ∀ character ∈ text, isInline character = true)
    (closed : rest.head? ≠ some '\'') (inside : 0 < column) :
    ∃ last, scan .single .text found { blanks := blanks } line column
      (doubled text ++ '\'' :: rest) =
        some (found.reverse ++ blanks.reverse ++ text, ⟨rest, line, last⟩) := by
  induction text generalizing found blanks column with
  | nil =>
      refine ⟨column + 1, ?_⟩
      rw [doubled, List.flatMap_nil, List.nil_append, scan_quote inside, if_neg closed]
      simp
  | cons character text ih =>
      have later := fun other mem => inline other (List.mem_cons_of_mem character mem)
      by_cases same : character = '\''
      · obtain ⟨last, ended⟩ :=
          ih ('\'' :: (blanks ++ found)) [] (column + 2) later (Nat.succ_pos _)
        refine ⟨last, ?_⟩
        rw [same, doubled_cons_quote, List.cons_append, List.cons_append, scan_quote inside,
          List.head?_cons, if_pos rfl, scan, Gap.folded]
        simpa using ended
      · rw [doubled_cons same, List.cons_append]
        by_cases blank : isBlank character = true
        · obtain ⟨last, ended⟩ := ih found (character :: blanks) (column + 1) later (Nat.succ_pos _)
          refine ⟨last, ?_⟩
          rw [scan_blank blank, ended]
          simp
        · obtain ⟨last, ended⟩ :=
            ih (character :: (blanks ++ found)) [] (column + 1) later (Nat.succ_pos _)
          refine ⟨last, ?_⟩
          rw [scan_inline (inline character List.mem_cons_self) (by simpa using blank) same inside,
            ended]
          simp

theorem read?_doubled (line column : Nat) (inline : ∀ character ∈ text, isInline character = true)
    (closed : rest.head? ≠ some '\'') :
    ∃ last, read? .single ⟨'\'' :: (doubled text ++ '\'' :: rest), line, column⟩ =
      some (text, ⟨rest, line, last⟩) :=
  scan_doubled [] [] line (column + 1) inline closed (Nat.succ_pos column)

end Quoted

end DebugSymbols.Yaml
