import DebugSymbols.Proofs.Yaml.Progress
import DebugSymbols.Proofs.Yaml.Scalars
import DebugSymbols.Yaml.Node
/-!
# Mappings written line by line

A mapping may be written with one entry on a line: a word, a colon and a scalar.
Each such line is cut into the tokens of its entry, the first of them opens the
block and the end of the document closes it, so that the document is read as
the mapping.
-/

namespace DebugSymbols.Yaml

inductive Inline where
  | plain (word : List Char)
  | quoted (text : List Char)

namespace Inline

def written : Inline → List Char
  | .plain word => word
  | .quoted text => '\'' :: (Quoted.doubled text ++ ['\''])

def isPlain : Inline → Bool
  | .plain _ => true
  | .quoted _ => false

def text : Inline → String
  | .plain word => String.ofList word
  | .quoted text => String.ofList text

def IsReadable : Inline → Prop
  | .plain word => IsWord word
  | .quoted text => ∀ character ∈ text, isInline character = true

instance : (value : Inline) → Decidable value.IsReadable
  | .plain word => inferInstanceAs (Decidable (IsWord word))
  | .quoted _ => decidable_of_iff _ List.all_eq_true

end Inline

/-- A word that may be a key where a line starts. -/
structure IsKey (word : List Char) : Prop extends IsWord word where
  unmarked : ∀ first ∈ word.head?, first ≠ byteOrderMark ∧ first ≠ '.'
  short : word.foldr (fun character octets => character.utf8Size + octets) 0 ≤ keyLimit

theorem isKey_iff {word : List Char} :
    IsKey word ↔ IsWord word ∧
      word.head?.all (fun first => first != byteOrderMark && first != '.') = true ∧
        word.foldr (fun character octets => character.utf8Size + octets) 0 ≤ keyLimit := by
  simp only [Option.all_eq_true, Bool.and_eq_true, bne_iff_ne]
  exact ⟨fun isKey => ⟨isKey.toIsWord, isKey.unmarked, isKey.short⟩,
    fun ⟨isWord, unmarked, short⟩ => ⟨isWord, unmarked, short⟩⟩

instance (word : List Char) : Decidable (IsKey word) :=
  decidable_of_iff' _ isKey_iff

structure Line where
  key : List Char
  value : Inline

namespace Line

def written (line : Line) : List Char :=
  line.key ++ ':' :: ' ' :: (line.value.written ++ ['\n'])

def tokens (line : Line) : List Token :=
  [.key, .scalar true (String.ofList line.key), .value, .scalar line.value.isPlain line.value.text]

def entry (line : Line) : Node × Node :=
  (.scalar true (String.ofList line.key), .scalar line.value.isPlain line.value.text)

structure IsReadable (line : Line) : Prop where
  key : IsKey line.key
  value : line.value.IsReadable

instance (line : Line) : Decidable line.IsReadable :=
  decidable_of_iff (IsKey line.key ∧ line.value.IsReadable)
    ⟨fun ⟨key, value⟩ => ⟨key, value⟩, fun ⟨key, value⟩ => ⟨key, value⟩⟩

end Line

/-- What may stand where a line starts: a key, or nothing at the end of the document. -/
def StartsLine (rest : List Char) : Prop :=
  ∀ first ∈ rest.head?, isInner first = true ∧ Plain.isIndicator first = false ∧
    first ≠ byteOrderMark ∧ first ≠ '.'

namespace Lexer

def mappingMargins (opened : Bool) : List Nat :=
  if opened then [1] else []

def atLine (opened : Bool) (tokens : List Token) (number : Nat) (rest : List Char) : Lexer :=
  { cursor := ⟨rest, number, 0⟩, tokens := tokens, margins := mappingMargins opened }

theorem seek_start {rest : List Char} (starts : StartsLine rest) (keyAllowed : Bool)
    (number : Nat) :
    seek false false keyAllowed number 0 rest = (keyAllowed, ⟨rest, number, 0⟩) := by
  cases rest with
  | nil => rfl
  | cons first rest =>
      obtain ⟨inner, indicator, mark, _⟩ := starts first rfl
      obtain ⟨inline, blank, _⟩ := isInner_iff.1 inner
      have comment : first ≠ '#' := by
        rintro rfl
        cases indicator
      simp only [isBlank, Bool.or_eq_false_iff, beq_eq_false_iff_ne] at blank
      rw [seek]
      simp [isBreak_of_isInline inline, mark, blank, comment]

theorem approach?_atLine {rest : List Char} (starts : StartsLine rest) (opened : Bool)
    (tokens : List Token) (number : Nat) :
    (atLine opened tokens number rest).approach? = some (atLine opened tokens number rest) := by
  have sought := seek_start starts true number
  cases opened
  all_goals
    simp [approach?, atLine, inFlow, sought, refreshKeys?, closeBlocks, closeMargins,
      mappingMargins]

section Entry

variable {line : Line} {rest : List Char} {opened : Bool} {tokens : List Token} {number : Nat}

def behindKey (opened : Bool) (tokens : List Token) (number : Nat) (key rest : List Char) :
    Lexer :=
  { cursor := ⟨rest, number, key.length⟩
    tokens := tokens ++ [.scalar true (String.ofList key)]
    margins := mappingMargins opened
    key := some ⟨⟨key ++ rest, number, 0⟩, tokens.length, opened⟩
    keyAllowed := false }

def beforeValue (tokens : List Token) (number column : Nat) (rest : List Char) : Lexer :=
  { cursor := ⟨rest, number, column⟩, tokens := tokens, margins := [1], keyAllowed := false }

theorem marker?_eq_none {first : Char} {rest : List Char}
    (starts : Plain.isIndicator first = false ∧ first ≠ '.') : marker? (first :: rest) = none := by
  have dash : first ≠ '-' := by
    rintro rfl
    cases starts.1
  rw [marker?]
  · intro _ same
    cases same
    exact dash rfl
  · intro _ same
    cases same
    exact starts.2 rfl

theorem saveKey?_of_allowed (lexer : Lexer) (allowed : lexer.keyAllowed = true)
    (free : lexer.key = none) :
    lexer.saveKey? = some
      { lexer with
        key := some
          { place := lexer.cursor
            index := lexer.tokens.length
            required := !lexer.inFlow && lexer.margin == lexer.cursor.column + 1 } } := by
  simp [saveKey?, dropKey?, abandon?, allowed, free]

theorem saveKey?_of_not_allowed (lexer : Lexer) (refused : lexer.keyAllowed = false) :
    lexer.saveKey? = some lexer := by
  simp [saveKey?, refused]

theorem readPlain?_of_read {lexer saved : Lexer} {found : Plain.Found}
    (keyed : lexer.saveKey? = some saved)
    (read : Plain.read? saved.inFlow saved.margin saved.cursor = some found) :
    lexer.readPlain? =
      some { saved.emit (.scalar true (String.ofList found.text)) with
        cursor := found.cursor, keyAllowed := found.crossed } := by
  simp [readPlain?, keyed, read]

theorem readFrom?_plain {lexer : Lexer} {first : Char} {next : Option Char}
    (unspaced : isSpace (some first) = false) (starts : Plain.isIndicator first = false) :
    lexer.readFrom? first next = lexer.readPlain? := by
  have apart (indicator : Char) (special : Plain.isIndicator indicator = true) :
      first ≠ indicator := by
    rintro rfl
    exact Bool.false_ne_true (starts.symm.trans special)
  unfold readFrom?
  split
  case h_8 =>
    simp [apart '-' rfl, apart '?' rfl, apart ':' rfl, apart '|' rfl, apart '>' rfl, Plain.starts,
      starts, unspaced]
  all_goals exact absurd rfl (apart _ rfl)

theorem readToken?_atLine {key : List Char} (isKey : IsKey key) :
    (atLine opened tokens number (key ++ ':' :: ' ' :: rest)).readToken? =
      some (behindKey opened tokens number key (':' :: ' ' :: rest)) := by
  obtain _ | ⟨first, word⟩ := key
  · exact absurd rfl isKey.nonempty
  · have starts := isKey.start first rfl
    have unspaced := isSpace_of_isInner (isKey.inner first List.mem_cons_self)
    have percent : first ≠ '%' := by
      rintro rfl
      cases starts
    have unmarked : marker? (first :: (word ++ ':' :: ' ' :: rest)) = none :=
      marker?_eq_none ⟨starts, (isKey.unmarked first rfl).2⟩
    have read := Plain.read?_key ((mappingMargins opened).headD 0) number isKey.toIsWord unmarked
    calc
      (atLine opened tokens number (first :: word ++ ':' :: ' ' :: rest)).readToken?
        = (atLine opened tokens number (first :: word ++ ':' :: ' ' :: rest)).readPlain? := by
          rw [readToken?]
          simp only [atLine, List.cons_append, unmarked, percent, if_true, if_false]
          exact readFrom?_plain unspaced starts
      _ = some (behindKey opened tokens number (first :: word) (':' :: ' ' :: rest)) := by
          have keyed := saveKey?_of_allowed
            (atLine opened tokens number (first :: word ++ ':' :: ' ' :: rest)) rfl rfl
          rw [readPlain?_of_read keyed read, behindKey]
          cases opened
          all_goals rfl

def keyTokens (opened : Bool) (key : List Char) : List Token :=
  (if opened then [] else [.blockMappingStart]) ++
    [.key, .scalar true (String.ofList key), .value]

theorem octetsBetween_key (key rest : List Char) (number : Nat) :
    Cursor.octetsBetween ⟨key ++ rest, number, 0⟩ ⟨rest, number, key.length⟩ =
      key.foldr (fun character octets => character.utf8Size + octets) 0 := by
  simp [Cursor.octetsBetween]

theorem approach?_behindKey {key : List Char} (isKey : IsKey key) :
    (behindKey opened tokens number key (':' :: rest)).approach? =
      some (behindKey opened tokens number key (':' :: rest)) := by
  have fresh : PossibleKey.isStale ⟨⟨key ++ ':' :: rest, number, 0⟩, tokens.length, opened⟩
      ⟨':' :: rest, number, key.length⟩ = false := by
    have short := isKey.short
    simp [PossibleKey.isStale, octetsBetween_key, short]
  have colon : isBreak ':' = false := by decide
  cases opened
  all_goals
    simp [approach?, behindKey, inFlow, seek, colon, byteOrderMark, refreshKeys?, fresh,
      closeBlocks, closeMargins, mappingMargins]

theorem readToken?_behindKey {key : List Char} (isKey : IsKey key) :
    (behindKey opened tokens number key (':' :: ' ' :: rest)).readToken? = some
      (beforeValue (tokens ++ keyTokens opened key) number (key.length + 1) (' ' :: rest)) := by
  have inside : key.length ≠ 0 := fun empty => isKey.nonempty (List.eq_nil_of_length_eq_zero empty)
  cases opened
  all_goals
    simp [readToken?, behindKey, inside, readFrom?, isSpace, isBlank, readValue?, emitAt, openBlock,
      inFlow, margin, mappingMargins, emit, pass, Cursor.pass, beforeValue, keyTokens]

theorem approach?_beforeValue {first : Char} {column : Nat} (visible : isBlank first = false)
    (unbroken : isBreak first = false) (comment : first ≠ '#') (inside : 0 < column) :
    (beforeValue tokens number column (' ' :: first :: rest)).approach? =
      some (beforeValue tokens number (column + 1) (first :: rest)) := by
  have space : isBreak ' ' = false := by decide
  simp only [isBlank, Bool.or_eq_false_iff, beq_eq_false_iff_ne] at visible
  simp [approach?, beforeValue, inFlow, seek, space, Nat.ne_of_gt inside, unbroken, visible,
    comment, refreshKeys?, closeBlocks, closeMargins]

theorem approach?_behindQuote {column : Nat} (starts : StartsLine rest) :
    (beforeValue tokens number column ('\n' :: rest)).approach? =
      some (atLine true tokens (number + 1) rest) := by
  have newline : isBreak '\n' = true := by decide
  simp [approach?, beforeValue, inFlow, seek, newline, seek_start starts, refreshKeys?, closeBlocks,
    closeMargins, atLine, mappingMargins]

theorem readToken?_word {word : List Char} {column : Nat} (isWord : IsWord word)
    (starts : StartsLine rest) (inside : 0 < column) :
    (beforeValue tokens number column (word ++ '\n' :: rest)).readToken? =
      some (atLine true (tokens ++ [.scalar true (String.ofList word)]) (number + 1) rest) := by
  have read := Plain.read?_value number isWord inside fun first mem => (starts first mem).1
  obtain _ | ⟨first, word⟩ := word
  · exact absurd rfl isWord.nonempty
  · have unspaced := isSpace_of_isInner (isWord.inner first List.mem_cons_self)
    have keyed := saveKey?_of_not_allowed
      (beforeValue tokens number column (first :: word ++ '\n' :: rest)) rfl
    calc
      (beforeValue tokens number column (first :: word ++ '\n' :: rest)).readToken?
        = (beforeValue tokens number column (first :: word ++ '\n' :: rest)).readPlain? := by
          rw [readToken?]
          simp only [beforeValue, List.cons_append, Nat.ne_of_gt inside, if_false]
          exact readFrom?_plain unspaced (isWord.start first rfl)
      _ = some (atLine true (tokens ++ [.scalar true (String.ofList (first :: word))]) (number + 1)
            rest) := by
          rw [readPlain?_of_read keyed read]
          rfl

theorem readToken?_quoted {text : List Char} {column : Nat} (tokens : List Token) (number : Nat)
    (rest : List Char) (inline : ∀ character ∈ text, isInline character = true)
    (inside : 0 < column) :
    ∃ last, (beforeValue tokens number column
      ('\'' :: (Quoted.doubled text ++ '\'' :: '\n' :: rest))).readToken? =
        some (beforeValue (tokens ++ [.scalar false (String.ofList text)]) number last
          ('\n' :: rest)) := by
  have closed : ('\n' :: rest).head? ≠ some '\'' := by simp
  obtain ⟨last, read⟩ := Quoted.read?_doubled number column inline closed
  refine ⟨last, ?_⟩
  simp [readToken?, beforeValue, Nat.ne_of_gt inside, readFrom?, readQuoted?, saveKey?, read, emit]

/-- Behind the value of an entry the next line is at hand. -/
theorem readToken?_value {value : Inline} (tokens : List Token) (number column : Nat)
    (readable : value.IsReadable) (starts : StartsLine rest) (inside : 0 < column) :
    ∃ next, (beforeValue tokens number column (value.written ++ '\n' :: rest)).readToken? =
        some next ∧
      next.approach? = some
        (atLine true (tokens ++ [.scalar value.isPlain value.text]) (number + 1) rest) := by
  cases value with
  | plain word =>
      exact ⟨_, readToken?_word readable starts inside, approach?_atLine starts _ _ _⟩
  | quoted text =>
      obtain ⟨last, read⟩ := readToken?_quoted tokens number rest readable inside
      refine ⟨beforeValue (tokens ++ [.scalar false (String.ofList text)]) number last
        ('\n' :: rest), ?_, approach?_behindQuote starts⟩
      simpa [Inline.written, Inline.isPlain, Inline.text] using read

theorem exists_cons_written {value : Inline} (readable : value.IsReadable) :
    ∃ first rest, value.written = first :: rest ∧ isBlank first = false ∧ isBreak first = false ∧
      first ≠ '#' := by
  cases value with
  | plain word =>
      obtain _ | ⟨first, word⟩ := word
      · exact absurd rfl (IsWord.nonempty readable)
      · obtain ⟨inline, blank, _⟩ := isInner_iff.1 (IsWord.inner readable first List.mem_cons_self)
        refine ⟨first, word, rfl, blank, isBreak_of_isInline inline, ?_⟩
        rintro rfl
        cases IsWord.start readable '#' rfl
  | quoted text => exact ⟨'\'', _, rfl, by decide⟩

theorem finish?_next {lexer near next : Lexer} (arrived : lexer.approach? = some near)
    (more : near.cursor.rest ≠ []) (read : near.readToken? = some next) (fuel : Nat) :
    finish? (fuel + 1) lexer = finish? fuel next := by
  simp [finish?, arrived, more, read]

/-- A line takes three steps, one for each of its key, its colon and its value. -/
theorem finish?_line {lexer : Lexer} (readable : line.IsReadable) (starts : StartsLine rest)
    (arrived : lexer.approach? = some (atLine opened tokens number (line.written ++ rest))) :
    ∃ next, next.approach? = some (atLine true (tokens ++ keyTokens opened line.key ++
        [.scalar line.value.isPlain line.value.text]) (number + 1) rest) ∧
      ∀ fuel, finish? (fuel + 3) lexer = finish? fuel next := by
  obtain ⟨first, others, written, visible, unbroken, comment⟩ :=
    exists_cons_written readable.value
  have whole : line.written ++ rest =
      line.key ++ ':' :: ' ' :: (line.value.written ++ '\n' :: rest) := by
    simp [Line.written]
  obtain ⟨next, read, ready⟩ := readToken?_value (tokens ++ keyTokens opened line.key) number
    (line.key.length + 2) readable.value starts (Nat.succ_pos _)
  refine ⟨next, ready, fun fuel => ?_⟩
  rw [whole] at arrived
  rw [written, List.cons_append] at arrived read
  calc
    finish? (fuel + 3) lexer
      = finish? (fuel + 2) (behindKey opened tokens number line.key
          (':' :: ' ' :: first :: (others ++ '\n' :: rest))) :=
        finish?_next arrived (by simp [atLine]) (readToken?_atLine readable.key) _
    _ = finish? (fuel + 1) (beforeValue (tokens ++ keyTokens opened line.key) number
          (line.key.length + 1) (' ' :: first :: (others ++ '\n' :: rest))) :=
        finish?_next (approach?_behindKey readable.key) (by simp [behindKey])
          (readToken?_behindKey readable.key) _
    _ = finish? fuel next :=
        finish?_next (approach?_beforeValue visible unbroken comment (Nat.succ_pos _))
          (by simp [beforeValue]) read _

end Entry

end Lexer

/-- A mapping with one entry on a line. -/
def block (lines : List Line) : List Char :=
  lines.flatMap Line.written

variable {lines : List Line}

theorem startsLine_block (readable : ∀ line ∈ lines, line.IsReadable) :
    StartsLine (block lines) := by
  cases lines with
  | nil => nofun
  | cons line lines =>
      have key := (readable line List.mem_cons_self).key
      intro first mem
      have head : first ∈ line.key.head? := by
        obtain ⟨other, word, same⟩ := List.exists_cons_of_ne_nil key.nonempty
        simpa [block, Line.written, same] using mem
      exact ⟨key.inner first (List.mem_of_mem_head? head), key.start first head,
        key.unmarked first head⟩

namespace Lexer

/-- The rest of a mapping that has been opened. -/
theorem finish?_opened (readable : ∀ line ∈ lines, line.IsReadable) {lexer : Lexer}
    {tokens : List Token} {number : Nat}
    (arrived : lexer.approach? = some (atLine true tokens number (block lines))) {fuel : Nat}
    (enough : 3 * lines.length < fuel) :
    finish? fuel lexer = some (tokens ++ lines.flatMap Line.tokens ++ [.blockEnd]) := by
  induction lines generalizing lexer tokens number fuel with
  | nil =>
      obtain _ | fuel := fuel
      · cases enough
      · simp [finish?, arrived, atLine, block, closeBlocks, inFlow, closeMargins, mappingMargins,
          dropKey?, abandon?]
  | cons line lines ih =>
      obtain ⟨here, later⟩ := List.forall_mem_cons.1 readable
      obtain ⟨fuel, rfl⟩ : ∃ more, fuel = more + 3 :=
        ⟨fuel - 3, by rw [List.length_cons] at enough; omega⟩
      obtain ⟨next, ready, advanced⟩ := finish?_line here (startsLine_block later) arrived
      rw [advanced, ih later ready (by rw [List.length_cons] at enough; omega)]
      simp [keyTokens, Line.tokens]

end Lexer

theorem isInline_of_mem_doubled {text : List Char} {character : Char}
    (inline : ∀ other ∈ text, isInline other = true) (mem : character ∈ Quoted.doubled text) :
    isInline character = true := by
  obtain ⟨other, here, same⟩ := List.mem_flatMap.1 mem
  split at same
  · have quote : character = '\'' := by simpa using same
    rw [quote]
    decide
  · rw [List.mem_singleton.1 same]
    exact inline other here

theorem isInline_of_mem_written {value : Inline} {character : Char} (readable : value.IsReadable)
    (mem : character ∈ value.written) : isInline character = true := by
  have quote : isInline '\'' = true := by decide
  cases value with
  | plain word => exact (isInner_iff.1 (IsWord.inner readable character mem)).1
  | quoted text =>
      simp only [Inline.written, List.mem_cons, List.mem_append, List.not_mem_nil, or_false] at mem
      obtain rfl | inside | rfl := mem
      · exact quote
      · exact isInline_of_mem_doubled readable inside
      · exact quote

/-- Nothing but newlines ends a line. -/
theorem mem_block {character : Char} (readable : ∀ line ∈ lines, line.IsReadable)
    (mem : character ∈ block lines) : isInline character = true ∨ character = '\n' := by
  obtain ⟨line, here, written⟩ := List.mem_flatMap.1 mem
  obtain ⟨key, value⟩ := readable line here
  simp only [Line.written, List.mem_append, List.mem_cons, List.not_mem_nil, or_false] at written
  obtain inKey | rfl | rfl | inValue | newline := written
  · exact .inl (isInner_iff.1 (key.inner character inKey)).1
  · exact .inl (by decide)
  · exact .inl (by decide)
  · exact .inl (isInline_of_mem_written value inValue)
  · exact .inr newline

theorem unifyBreaks_eq_self {characters : List Char}
    (unified : ∀ character ∈ characters, character ≠ '\r' ∧ character ≠ '\x85') :
    unifyBreaks characters = characters := by
  induction characters with
  | nil => rfl
  | cons first rest ih =>
      obtain ⟨here, later⟩ := List.forall_mem_cons.1 unified
      rw [unifyBreaks, ih later]
      · intro _ same
        exact absurd same here.1
      · exact here.1
      · exact here.2

theorem characters?_block (readable : ∀ line ∈ lines, line.IsReadable) :
    characters? (String.ofList (block lines)) = some (block lines) := by
  have allowed : ∀ character ∈ block lines, isAllowed character = true ∧
      character ≠ '\r' ∧ character ≠ '\x85' := by
    intro character mem
    obtain inline | rfl := mem_block readable mem
    · simp only [isInline, Bool.and_eq_true, bne_iff_ne] at inline
      exact ⟨inline.1.1.1, inline.1.2, inline.2⟩
    · decide
  rw [characters?, String.toList_ofList, if_pos (List.all_eq_true.2 fun _ mem => (allowed _ mem).1),
    unifyBreaks_eq_self fun _ mem => (allowed _ mem).2]

/-- A mapping is cut into the tokens of its entries. -/
theorem tokens?_block (readable : ∀ line ∈ lines, line.IsReadable) (more : lines ≠ []) :
    tokens? (String.ofList (block lines)) =
      some (.blockMappingStart :: (lines.flatMap Line.tokens ++ [.blockEnd])) := by
  obtain _ | ⟨line, lines⟩ := lines
  · exact absurd rfl more
  · obtain ⟨here, later⟩ := List.forall_mem_cons.1 readable
    have starts := startsLine_block readable
    have arrived := Lexer.approach?_atLine starts false [] 0
    obtain ⟨next, ready, advanced⟩ := Lexer.finish?_line here (startsLine_block later) arrived
    let fuel := (block (line :: lines)).length + 3 * lines.length + 1
    have cut : tokens? (String.ofList (block (line :: lines))) =
        Lexer.finish? (fuel + 3) (Lexer.atLine false [] 0 (block (line :: lines))) :=
      tokens?_eq (characters?_block readable) (by omega)
    rw [cut, advanced, Lexer.finish?_opened later ready (by omega)]
    simp [Lexer.keyTokens, Line.tokens]

namespace Node

variable {fuel : Nat} {stops : List Token} {plain : Bool} {text : String} {tokens : List Token}

theorem readUnless?_scalar (goes : stopsAt stops (.scalar plain text :: tokens) = false)
    (inBlock indentless : Bool) :
    readUnless? (fuel + 2) stops inBlock indentless (.scalar plain text :: tokens) =
      some (.scalar plain text, tokens) := by
  simp [readUnless?, goes, read?]

theorem readBlockEntries?_line (line : Line) :
    readBlockEntries? (fuel + 4) (line.tokens ++ tokens) =
      (readBlockEntries? (fuel + 3) tokens).map fun (entries, rest) =>
        (line.entry :: entries, rest) := by
  have key : readUnless? (fuel + 3) [.key, .value, .blockEnd] true true
      (.scalar true (String.ofList line.key) :: .value ::
        .scalar line.value.isPlain line.value.text :: tokens) =
        some (.scalar true (String.ofList line.key),
          .value :: .scalar line.value.isPlain line.value.text :: tokens) :=
    readUnless?_scalar rfl true true
  have value : readValue? (fuel + 3) [.key, .value, .blockEnd] true
      (.value :: .scalar line.value.isPlain line.value.text :: tokens) =
        some (.scalar line.value.isPlain line.value.text, tokens) := by
    rw [readValue?]
    exact readUnless?_scalar rfl true true
  rw [Line.tokens, List.cons_append, readBlockEntries?]
  simp only [List.cons_append, List.nil_append, key, value, Option.bind_eq_bind, Option.bind_some,
    Line.entry]
  cases readBlockEntries? (fuel + 3) tokens with
  | none => rfl
  | some read => rfl

theorem readBlockEntries?_lines (lines : List Line) (enough : lines.length + 4 ≤ fuel) :
    readBlockEntries? fuel (lines.flatMap Line.tokens ++ [.blockEnd]) =
      some (lines.map Line.entry, []) := by
  induction lines generalizing fuel with
  | nil =>
      obtain ⟨fuel, rfl⟩ : ∃ more, fuel = more + 1 := ⟨fuel - 1, by omega⟩
      rfl
  | cons line lines ih =>
      rw [List.length_cons] at enough
      obtain ⟨fuel, rfl⟩ : ∃ more, fuel = more + 4 := ⟨fuel - 4, by omega⟩
      rw [List.flatMap_cons, List.append_assoc, readBlockEntries?_line, ih (by omega)]
      rfl

theorem length_flatMap_tokens (lines : List Line) :
    (lines.flatMap Line.tokens).length = 4 * lines.length := by
  induction lines with
  | nil => rfl
  | cons line lines ih =>
      rw [List.flatMap_cons, List.length_append, ih, List.length_cons, Nat.mul_succ, Nat.add_comm]
      rfl

/-- A mapping that is written line by line is read back. -/
theorem parse?_block (readable : ∀ line ∈ lines, line.IsReadable) (more : lines ≠ []) :
    parse? (String.ofList (block lines)) = some (some (.mapping (lines.map Line.entry))) := by
  have root : readRoot? (.blockMappingStart :: (lines.flatMap Line.tokens ++ [.blockEnd])) =
      some (.mapping (lines.map Line.entry), []) := by
    have length := length_flatMap_tokens lines
    have enough : lines.length + 4 ≤
        4 * (.blockMappingStart :: (lines.flatMap Line.tokens ++ [Token.blockEnd])).length + 3 := by
      rw [List.length_cons, List.length_append, length]
      omega
    simp only [readRoot?, read?, readBlockEntries?_lines lines enough]
    rfl
  rw [parse?, tokens?_block readable more, Option.bind_some, ofTokens?, root]
  rfl

end Node

end DebugSymbols.Yaml
