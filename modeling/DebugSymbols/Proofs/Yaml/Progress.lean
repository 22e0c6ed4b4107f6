import DebugSymbols.Yaml.Lexer
/-!
# Tokens take characters

The lexer never goes back: what is left of a document behind a token is a later
part of what was left before it.  Every token takes a character, so the bound
on the number of tokens is never reached.
-/

namespace DebugSymbols.Yaml

section Scalars

variable {character : Char} {rest : List Char} {line column : Nat} {cursor : Cursor}

theorem Plain.isSuffix_scan {inFlow : Bool} {margin : Nat} {word : List Char} {gap : Gap}
    {found : Found} (read : scan inFlow margin word gap line column rest = some found) :
    found.cursor.rest <:+ rest := by
  induction rest generalizing word gap line column with
  | nil =>
      cases read
      exact List.suffix_rfl
  | cons character rest ih =>
      have later : ∀ {word gap line column},
          scan inFlow margin word gap line column rest = some found →
            found.cursor.rest <:+ character :: rest :=
        fun read => (ih read).trans (List.suffix_cons character rest)
      rw [scan] at read
      split at read
      · split at read
        · cases read
        · exact later read
      · split at read
        · exact later read
        · split at read
          · cases read
            exact List.suffix_rfl
          · split at read
            · cases read
            · exact later read

theorem Quoted.isSuffix_scan {quote : Quote} {mode : Mode} {word text : List Char} {gap : Gap}
    (read : scan quote mode word gap line column rest = some (text, cursor)) :
    cursor.rest <:+ rest := by
  induction rest generalizing mode word gap line column with
  | nil => cases read
  | cons character rest ih =>
      have later : ∀ {mode word gap line column},
          scan quote mode word gap line column rest = some (text, cursor) →
            cursor.rest <:+ character :: rest :=
        fun read => (ih read).trans (List.suffix_cons character rest)
      cases mode with
      | repeated => exact later read
      | escape =>
          rw [scan] at read
          split at read
          · exact later read
          · split at read
            · exact later read
            · exact later read
            · cases read
      | code remaining value =>
          rw [scan] at read
          split at read
          · cases read
          · simp only at read
            split at read
            · exact later read
            · split at read
              · cases read
              · exact later read
      | text =>
          rw [scan] at read
          split at read
          · exact later read
          · split at read
            · exact later read
            · split at read
              · cases read
              · split at read
                · split at read
                  · exact later read
                  · cases read
                    exact List.suffix_cons character rest
                · split at read
                  · exact later read
                  · exact later read

theorem Block.isSuffix_scan {literal inLine : Bool} {indentation : Nat}
    {progress last : Progress}
    (read : scan literal indentation progress inLine line column rest = some (last, cursor)) :
    cursor.rest <:+ rest := by
  induction rest generalizing progress inLine line column with
  | nil =>
      cases read
      exact List.suffix_rfl
  | cons character rest ih =>
      have later : ∀ {progress inLine line column},
          scan literal indentation progress inLine line column rest = some (last, cursor) →
            cursor.rest <:+ character :: rest :=
        fun read => (ih read).trans (List.suffix_cons character rest)
      rw [scan] at read
      split at read
      · split at read
        · exact later read
        · exact later read
      · split at read
        · exact later read
        · split at read
          · cases read
          · split at read
            · exact later read
            · split at read
              · exact later read
              · cases read
                exact List.suffix_rfl

theorem Quoted.isSuffix_read? {quote : Quote} {start : Cursor} {text : List Char}
    (read : read? quote start = some (text, cursor)) : cursor.rest <:+ start.rest.tail := by
  have inside := isSuffix_scan read
  rwa [Cursor.pass, List.drop_one] at inside

theorem Block.isSuffix_read? {literal : Bool} {margin : Nat} {start : Cursor} {text : List Char}
    (read : read? literal margin start = some (text, cursor)) :
    cursor.rest <:+ start.rest.tail := by
  simp only [read?, bind, pure] at read
  obtain ⟨header, _, read⟩ := Option.bind_eq_some_iff.1 read
  have behind : ∀ {indentation : Nat},
      ((scan literal indentation {} false (start.line + 1) 0
        (start.rest.tail.dropWhile fun character => !isBreak character).tail).bind fun ended =>
          some (ended.1.finish header.chomping, ended.2)) = some (text, cursor) →
        cursor.rest <:+ start.rest.tail := by
    intro indentation read
    obtain ⟨⟨progress, after⟩, scanned, same⟩ := Option.bind_eq_some_iff.1 read
    cases same
    exact ((isSuffix_scan scanned).trans (List.tail_suffix _)).trans (List.dropWhile_suffix _)
  split at read
  · exact behind read
  · obtain ⟨_, _, read⟩ := Option.bind_eq_some_iff.1 read
    exact behind read

theorem Plain.isIndicator_of_isFlowIndicator (bracket : isFlowIndicator character = true) :
    isIndicator character = true := by
  rw [isFlowIndicator, List.contains_iff_mem] at bracket
  rw [isIndicator, List.contains_iff_mem]
  have among : [',', '[', ']', '\x7b', '\x7d'] ⊆ ['-', '?', ':', ',', '[', ']', '\x7b', '\x7d', '#',
      '&', '*', '!', '|', '>', '\'', '"', '%', '@', '\x60'] := by decide
  exact among bracket

/-- What starts a plain scalar belongs to it. -/
theorem Plain.inside_of_starts {inFlow : Bool} {next : Option Char}
    (starts : starts inFlow character next = true) :
    isSpace (some character) = false ∧ ends inFlow character next = false := by
  simp only [Plain.starts, Bool.or_eq_true, Bool.and_eq_true, Bool.not_eq_true', beq_iff_eq,
    Bool.or_eq_false_iff] at starts
  obtain (⟨unmarked, visible⟩ | ⟨rfl, goes⟩) | ⟨⟨rfl, rfl | rfl⟩, goes⟩ := starts
  · have colon : character ≠ ':' := by
      rintro rfl
      cases unmarked
    have bracket : isFlowIndicator character = false := by
      rw [← Bool.not_eq_true]
      intro bracket
      rw [isIndicator_of_isFlowIndicator bracket] at unmarked
      cases unmarked
    exact ⟨visible, by simp [ends, colon, bracket]⟩
  · exact ⟨rfl, by cases inFlow <;> rfl⟩
  · exact ⟨rfl, rfl⟩
  · exact ⟨rfl, by simp [ends, goes]⟩

/-- A plain scalar has at least the character that it starts with. -/
theorem Plain.isSuffix_read? {inFlow : Bool} {margin : Nat} {start : Cursor} {found : Found}
    (whole : start.rest = character :: rest)
    (starts : starts inFlow character rest.head? = true)
    (unmarked : atMarker start.column start.rest = false)
    (read : read? inFlow margin start = some found) : found.cursor.rest <:+ rest := by
  obtain ⟨visible, goes⟩ := inside_of_starts starts
  simp only [isSpace, Bool.or_eq_false_iff] at visible
  rw [whole] at unmarked
  rw [read?, whole, scan] at read
  obtain ⟨_, scanned⟩ : clashes inFlow character rest.head? = false ∧
      scan inFlow margin [character] {} start.line (start.column + 1) rest = some found := by
    simpa [visible, endsBehind, Gap.isEmpty, Gap.crossesLine, unmarked, goes, Gap.folded] using read
  exact isSuffix_scan scanned

end Scalars

namespace Lexer

variable {lexer next : Lexer} {token : Token} {index column count : Nat}

@[simp]
theorem cursor_emit : (lexer.emit token).cursor = lexer.cursor :=
  rfl

@[simp]
theorem cursor_emitAt : (lexer.emitAt index token).cursor = lexer.cursor :=
  rfl

@[simp]
theorem rest_pass_one : (lexer.pass 1).cursor.rest = lexer.cursor.rest.tail :=
  List.drop_one

@[simp]
theorem cursor_openBlock : (lexer.openBlock index column token).cursor = lexer.cursor := by
  rw [openBlock]
  split
  · rfl
  · rfl

@[simp]
theorem cursor_closeBlocks (limit : Nat) : (lexer.closeBlocks limit).cursor = lexer.cursor := by
  rw [closeBlocks]
  split
  · rfl
  · rfl

theorem cursor_of_dropKey? (dropped : lexer.dropKey? = some next) : next.cursor = lexer.cursor := by
  obtain ⟨key, _, rfl⟩ := Option.map_eq_some_iff.1 dropped
  rfl

theorem cursor_of_saveKey? (saved : lexer.saveKey? = some next) : next.cursor = lexer.cursor := by
  rw [saveKey?] at saved
  split at saved
  · obtain ⟨dropped, abandoned, rfl⟩ := Option.map_eq_some_iff.1 saved
    have same := cursor_of_dropKey? abandoned
    exact same
  · cases saved
    rfl

theorem inFlow_of_saveKey? (saved : lexer.saveKey? = some next) : next.inFlow = lexer.inFlow := by
  rw [saveKey?] at saved
  split at saved
  · obtain ⟨dropped, abandoned, rfl⟩ := Option.map_eq_some_iff.1 saved
    obtain ⟨key, _, rfl⟩ := Option.map_eq_some_iff.1 abandoned
    rfl
  · cases saved
    rfl

theorem cursor_of_openAtIndicator? (opened : lexer.openAtIndicator? token = some next) :
    next.cursor = lexer.cursor := by
  rw [openAtIndicator?] at opened
  split at opened
  · cases opened
    rfl
  · split at opened
    · cases opened
      exact cursor_openBlock
    · cases opened

theorem cursor_of_refreshKeys? (fresh : lexer.refreshKeys? = some next) :
    next.cursor = lexer.cursor := by
  simp only [refreshKeys?, bind, pure] at fresh
  obtain ⟨key, _, fresh⟩ := Option.bind_eq_some_iff.1 fresh
  obtain ⟨outerKeys, _, fresh⟩ := Option.bind_eq_some_iff.1 fresh
  cases fresh
  rfl

theorem isSuffix_seek (inFlow inComment keyAllowed : Bool) (line column : Nat) (rest : List Char) :
    (seek inFlow inComment keyAllowed line column rest).2.rest <:+ rest := by
  induction rest generalizing inComment keyAllowed line column with
  | nil => exact List.suffix_rfl
  | cons character rest ih =>
      have later := fun inComment keyAllowed line column =>
        (ih inComment keyAllowed line column).trans (List.suffix_cons character rest)
      rw [seek]
      split
      · exact later _ _ _ _
      · split
        · exact later _ _ _ _
        · split
          · exact later _ _ _ _
          · split
            · exact later _ _ _ _
            · exact List.suffix_rfl

theorem isSuffix_of_approach? (arrived : lexer.approach? = some next) :
    next.cursor.rest <:+ lexer.cursor.rest := by
  obtain ⟨fresh, refreshed, rfl⟩ := Option.map_eq_some_iff.1 arrived
  rw [cursor_closeBlocks, cursor_of_refreshKeys? refreshed]
  exact isSuffix_seek _ _ _ _ _ _

/-! ## Readers of tokens -/

section Readers

theorem isSuffix_of_readMarker? {marker : Marker} (read : lexer.readMarker? marker = some next) :
    next.cursor.rest <:+ lexer.cursor.rest.tail := by
  obtain ⟨dropped, given, same⟩ := Option.bind_eq_some_iff.1 read
  cases same
  have place := cursor_of_dropKey? given
  rw [cursor_closeBlocks] at place
  have passed : dropped.cursor.rest.drop 3 <:+ lexer.cursor.rest.tail := by
    rw [place, ← List.drop_tail]
    exact List.drop_suffix 2 _
  exact passed

theorem isSuffix_of_readOpening? (read : lexer.readOpening? token = some next) :
    next.cursor.rest <:+ lexer.cursor.rest.tail := by
  obtain ⟨saved, given, same⟩ := Option.bind_eq_some_iff.1 read
  cases same
  simp [cursor_of_saveKey? given]

theorem isSuffix_of_readClosing? (read : lexer.readClosing? token = some next) :
    next.cursor.rest <:+ lexer.cursor.rest.tail := by
  obtain ⟨dropped, given, same⟩ := Option.bind_eq_some_iff.1 read
  simp only at same
  split at same
  · cases same
    simp [cursor_of_dropKey? given]
  · cases same
    simp [cursor_of_dropKey? given]

theorem isSuffix_of_readFlowEntry? (read : lexer.readFlowEntry? = some next) :
    next.cursor.rest <:+ lexer.cursor.rest.tail := by
  obtain ⟨dropped, given, same⟩ := Option.bind_eq_some_iff.1 read
  cases same
  simp [cursor_of_dropKey? given]

theorem isSuffix_of_readBlockEntry? (read : lexer.readBlockEntry? = some next) :
    next.cursor.rest <:+ lexer.cursor.rest.tail := by
  obtain ⟨opened, place, read⟩ := Option.bind_eq_some_iff.1 read
  obtain ⟨dropped, given, same⟩ := Option.bind_eq_some_iff.1 read
  cases same
  simp [cursor_of_dropKey? given, cursor_of_openAtIndicator? place]

theorem isSuffix_of_readKey? (read : lexer.readKey? = some next) :
    next.cursor.rest <:+ lexer.cursor.rest.tail := by
  obtain ⟨opened, place, read⟩ := Option.bind_eq_some_iff.1 read
  obtain ⟨dropped, given, same⟩ := Option.bind_eq_some_iff.1 read
  cases same
  simp [cursor_of_dropKey? given, cursor_of_openAtIndicator? place]

theorem isSuffix_of_readValue? (read : lexer.readValue? = some next) :
    next.cursor.rest <:+ lexer.cursor.rest.tail := by
  rw [readValue?] at read
  split at read
  · cases read
    simp
  · obtain ⟨opened, place, same⟩ := Option.bind_eq_some_iff.1 read
    cases same
    simp [cursor_of_openAtIndicator? place]

theorem isSuffix_of_readBlockScalar? {literal : Bool}
    (read : lexer.readBlockScalar? literal = some next) :
    next.cursor.rest <:+ lexer.cursor.rest.tail := by
  obtain ⟨dropped, given, read⟩ := Option.bind_eq_some_iff.1 read
  obtain ⟨⟨text, cursor⟩, scalar, same⟩ := Option.bind_eq_some_iff.1 read
  cases same
  simpa [cursor_of_dropKey? given] using Block.isSuffix_read? scalar

theorem isSuffix_of_readQuoted? {quote : Quoted.Quote}
    (read : lexer.readQuoted? quote = some next) :
    next.cursor.rest <:+ lexer.cursor.rest.tail := by
  obtain ⟨saved, given, read⟩ := Option.bind_eq_some_iff.1 read
  obtain ⟨⟨text, cursor⟩, scalar, same⟩ := Option.bind_eq_some_iff.1 read
  cases same
  simpa [cursor_of_saveKey? given] using Quoted.isSuffix_read? scalar

variable {first : Char} {rest : List Char}

theorem isSuffix_of_readPlain? (whole : lexer.cursor.rest = first :: rest)
    (starts : Plain.starts lexer.inFlow first rest.head? = true)
    (unmarked : atMarker lexer.cursor.column lexer.cursor.rest = false)
    (read : lexer.readPlain? = some next) :
    next.cursor.rest <:+ lexer.cursor.rest.tail := by
  obtain ⟨saved, given, read⟩ := Option.bind_eq_some_iff.1 read
  obtain ⟨found, scalar, same⟩ := Option.bind_eq_some_iff.1 read
  cases same
  have inside := inFlow_of_saveKey? given
  have place := cursor_of_saveKey? given
  rw [inside, place] at scalar
  have passed := Plain.isSuffix_read? whole starts unmarked scalar
  rwa [whole]

theorem isSuffix_of_readFrom? (whole : lexer.cursor.rest = first :: rest)
    (unmarked : atMarker lexer.cursor.column lexer.cursor.rest = false)
    (read : lexer.readFrom? first rest.head? = some next) :
    next.cursor.rest <:+ lexer.cursor.rest.tail := by
  rw [readFrom?.eq_def] at read
  split at read
  · exact isSuffix_of_readOpening? read
  · exact isSuffix_of_readOpening? read
  · exact isSuffix_of_readClosing? read
  · exact isSuffix_of_readClosing? read
  · exact isSuffix_of_readFlowEntry? read
  · exact isSuffix_of_readQuoted? read
  · exact isSuffix_of_readQuoted? read
  · split at read
    · exact isSuffix_of_readBlockEntry? read
    · split at read
      · exact isSuffix_of_readKey? read
      · split at read
        · exact isSuffix_of_readValue? read
        · split at read
          · exact isSuffix_of_readBlockScalar? read
          · split at read
            · exact isSuffix_of_readBlockScalar? read
            · split at read
              · next starts => exact isSuffix_of_readPlain? whole starts unmarked read
              · cases read

/-- A token takes a character at least. -/
theorem isSuffix_of_readToken? (read : lexer.readToken? = some next) :
    next.cursor.rest <:+ lexer.cursor.rest.tail := by
  rw [readToken?.eq_def] at read
  split at read
  · cases read
  · next first rest whole =>
      split at read
      · next start =>
          split at read
          · exact isSuffix_of_readMarker? read
          · next unmarked =>
              split at read
              · cases read
              · refine isSuffix_of_readFrom? whole ?_ read
                rw [whole, atMarker, unmarked]
                simp
      · next inside =>
          refine isSuffix_of_readFrom? whole ?_ read
          simp [atMarker, inside]

end Readers

/-- Once there is fuel for every character left, more makes no difference. -/
theorem finish?_add {fuel : Nat} (enough : lexer.cursor.rest.length < fuel) (more : Nat) :
    finish? (fuel + more) lexer = finish? fuel lexer := by
  induction fuel generalizing lexer with
  | zero => cases enough
  | succ fuel ih =>
      rw [Nat.succ_add, finish?, finish?]
      refine Option.bind_congr fun near arrived => ?_
      split
      · rfl
      · next left =>
          refine Option.bind_congr fun next read => ih ?_
          have before := (isSuffix_of_approach? arrived).length_le
          have after := (isSuffix_of_readToken? read).length_le
          have nonempty : 0 < near.cursor.rest.length :=
            List.length_pos_iff.2 fun empty => left (List.isEmpty_iff.2 empty)
          rw [List.length_tail] at after
          omega

end Lexer

/-- A document is cut alike with any fuel that is enough for its characters. -/
theorem tokens?_eq {text : String} {characters : List Char} {fuel : Nat}
    (given : characters? text = some characters) (enough : characters.length < fuel) :
    tokens? text = Lexer.finish? fuel { cursor := { rest := characters } } := by
  obtain ⟨more, rfl⟩ := Nat.exists_eq_add_of_le (Nat.succ_le_of_lt enough)
  rw [tokens?, given]
  exact (Lexer.finish?_add (Nat.lt_succ_self characters.length) more).symm

end DebugSymbols.Yaml
