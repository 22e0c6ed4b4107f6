import DebugSymbols.Proofs.Numeral
import DebugSymbols.Proofs.Session
import DebugSymbols.Proofs.Yaml.Lines
import DebugSymbols.Settings.Document
/-!
# Settings that are written down

Settings may be written with one entry on a line, the output path between
quotes.  A reader of documents gives them back, and a run goes by them.
-/

namespace DebugSymbols

namespace Settings

open Yaml (Inline IsKey IsWord)

/-! ## Versions -/

theorem numeral?_write (value : Nat) : numeral? (Radix.decimal.write value) = some value := by
  have read := Radix.decimal.read?_write value
  obtain rfl | positive := Nat.eq_zero_or_pos value
  · have written : Radix.decimal.write 0 = ['0'] := by
      rw [Radix.write]
      rfl
    rw [written] at read ⊢
    exact read
  · have head := Radix.decimal.head?_write_ne_zero positive
    unfold numeral?
    split
    case h_5 => exact read
    all_goals
      next same =>
        rw [same] at head
        exact absurd rfl head

theorem word32?_decimal (word : UInt32) : word32? (decimal word.toNat) = some word := by
  have unsigned : ∀ digits, Radix.decimal.write word.toNat ≠ '+' :: digits := by
    intro digits same
    have mem : '+' ∈ Radix.decimal.write word.toNat := by
      rw [same]
      exact List.mem_cons_self
    obtain ⟨digit, small, plus⟩ := Radix.decimal.exists_digitChar_of_mem_write mem
    have apart : ∀ digit < 10, digitChar digit ≠ '+' := by decide
    exact apart digit small plus.symm
  rw [word32?, decimal, String.toList_ofList]
  split
  · next rest same => exact absurd same (unsigned rest)
  · rw [numeral?_write, Option.bind_some, if_pos word.toNat_lt_size, UInt32.ofNat_toNat]

theorem isWord_write (value : Nat) : IsWord (Radix.decimal.write value) := by
  have digits : ∀ digit < 10, Yaml.isInner (digitChar digit) = true ∧
      Yaml.Plain.isIndicator (digitChar digit) = false := by decide
  refine ⟨Radix.decimal.write_ne_nil value, ?_, ?_⟩
  · intro first mem
    obtain ⟨digit, small, rfl⟩ :=
      Radix.decimal.exists_digitChar_of_mem_write (List.mem_of_mem_head? mem)
    exact (digits digit small).2
  · intro character mem
    obtain ⟨digit, small, rfl⟩ := Radix.decimal.exists_digitChar_of_mem_write mem
    exact (digits digit small).1

/-! ## Documents -/

/-- An output path is written between quotes, and that there is none as a word. -/
def outputLine (output : Option String) : Yaml.Line where
  key := "output".toList
  value := match output with
    | some path => .quoted path.toList
    | none => .plain ['~']

def versionLine (version : UInt32) : Yaml.Line where
  key := "version".toList
  value := .plain (Radix.decimal.write version.toNat)

def enabledLine (enabled : Bool) : Yaml.Line where
  key := "enabled".toList
  value := .plain (if enabled then "true".toList else "false".toList)

namespace Draft

def lines (draft : Draft) : List Yaml.Line :=
  draft.output.toList.map outputLine ++ draft.version.toList.map versionLine ++
    draft.enabled.toList.map enabledLine

def written (draft : Draft) : String :=
  String.ofList (Yaml.block draft.lines)

/-- The output path can be written on a line. -/
def IsPrintable (draft : Draft) : Prop :=
  ∀ path, draft.output = some (some path) → ∀ character ∈ path.toList,
    Yaml.isInline character = true

variable {draft : Draft}

theorem isReadable_outputLine (output : Option String)
    (inline : ∀ path, output = some path → ∀ character ∈ path.toList,
      Yaml.isInline character = true) : (outputLine output).IsReadable := by
  have key : IsKey "output".toList := by decide
  have null : IsWord ['~'] := by decide
  cases output with
  | none => exact ⟨key, null⟩
  | some path => exact ⟨key, inline path rfl⟩

theorem isReadable_versionLine (version : UInt32) : (versionLine version).IsReadable := by
  have key : IsKey "version".toList := by decide
  exact ⟨key, isWord_write version.toNat⟩

theorem isReadable_enabledLine (enabled : Bool) : (enabledLine enabled).IsReadable := by
  have key : IsKey "enabled".toList := by decide
  have words : IsWord "false".toList ∧ IsWord "true".toList := by decide
  cases enabled with
  | false => exact ⟨key, words.1⟩
  | true => exact ⟨key, words.2⟩

theorem isReadable_lines (printable : draft.IsPrintable) :
    ∀ line ∈ draft.lines, line.IsReadable := by
  intro line mem
  simp only [lines, List.mem_append, List.mem_map, Option.mem_toList] at mem
  obtain (⟨output, given, rfl⟩ | ⟨version, _, rfl⟩) | ⟨enabled, _, rfl⟩ := mem
  · exact isReadable_outputLine output fun path same => printable path (same ▸ given)
  · exact isReadable_versionLine version
  · exact isReadable_enabledLine enabled

theorem add?_outputLine (absent : draft.output = none) (output : Option String) :
    draft.add? (outputLine output).entry = some { draft with output := some output } := by
  cases output with
  | none =>
      have read : output? (.scalar true "~") = some none := rfl
      have entry : (outputLine none).entry = (.scalar true "output", .scalar true "~") := rfl
      rw [entry, add?, absent, read]
      rfl
  | some path =>
      have read : output? (.scalar false path) = some (some path) := rfl
      have entry : (outputLine (some path)).entry =
          (.scalar true "output", .scalar false path) :=
        congrArg (fun text => (Yaml.Node.scalar true "output", Yaml.Node.scalar false text))
          String.ofList_toList
      rw [entry, add?, absent, read]
      rfl

theorem add?_versionLine (absent : draft.version = none) (version : UInt32) :
    draft.add? (versionLine version).entry = some { draft with version := some version } := by
  have read : version? (.scalar true (decimal version.toNat)) = some version :=
    word32?_decimal version
  have entry : (versionLine version).entry =
      (.scalar true "version", .scalar true (decimal version.toNat)) := rfl
  rw [entry, add?, absent, read]
  rfl

theorem add?_enabledLine (absent : draft.enabled = none) (enabled : Bool) :
    draft.add? (enabledLine enabled).entry = some { draft with enabled := some enabled } := by
  cases enabled with
  | false =>
      have entry : (enabledLine false).entry = (.scalar true "enabled", .scalar true "false") := rfl
      rw [entry, add?, absent]
      rfl
  | true =>
      have entry : (enabledLine true).entry = (.scalar true "enabled", .scalar true "true") := rfl
      rw [entry, add?, absent]
      rfl

theorem foldlM_add?_lines (draft : Draft) :
    (draft.lines.map Yaml.Line.entry).foldlM add? {} = some draft := by
  obtain ⟨output, version, enabled⟩ := draft
  cases output
  all_goals
    cases version
    all_goals
      cases enabled
      all_goals simp [lines, add?_outputLine, add?_versionLine, add?_enabledLine]

end Draft

/-- What a document gives that is written line by line is told by its entries in order. -/
theorem draft?_block (lines : List Yaml.Line) (readable : ∀ line ∈ lines, line.IsReadable) :
    draft? (String.ofList (Yaml.block lines)) =
      (lines.map Yaml.Line.entry).foldlM Draft.add? {} := by
  rw [draft?]
  by_cases empty : lines = []
  · rw [empty]
    rfl
  · rw [Yaml.Node.parse?_block readable empty]
    rfl

example : draft? "output: build/game.sym\nversion: 2\nenabled: true\n" =
    some ⟨some (some "build/game.sym"), some 2, some true⟩ := by
  let lines : List Yaml.Line :=
    [⟨"output".toList, .plain "build/game.sym".toList⟩, ⟨"version".toList, .plain ['2']⟩,
      ⟨"enabled".toList, .plain "true".toList⟩]
  calc
    draft? "output: build/game.sym\nversion: 2\nenabled: true\n"
      = draft? (String.ofList (Yaml.block lines)) := congrArg draft? (by decide)
    _ = (lines.map Yaml.Line.entry).foldlM Draft.add? {} := draft?_block lines (by decide)
    _ = some ⟨some (some "build/game.sym"), some 2, some true⟩ := by decide

/-- A draft that is written down is read back. -/
theorem draft?_written {draft : Draft} (printable : draft.IsPrintable) :
    draft? draft.written = some draft :=
  (draft?_block draft.lines (Draft.isReadable_lines printable)).trans draft.foldlM_add?_lines

/-- A reader takes settings that are written down for what they say, and refuses what is no text or
cannot be read to its end. -/
structure Reader.Conforms (reader : Reader) : Prop where
  written : ∀ draft : Draft, draft.IsPrintable →
    reader ⟨Text.encode draft.written, false⟩ = some draft
  unreadable : ∀ stream : Text.Stream, stream.text? = none → reader stream = none

theorem document_eq (stream : Text.Stream) : document stream = stream.text?.bind draft? :=
  rfl

theorem document_encode (text : String) :
    document ⟨Text.encode text, false⟩ = draft? text := by
  have decoded : Text.Stream.text? ⟨Text.encode text, false⟩ = some text := by
    rw [Text.Stream.text?, if_neg Bool.false_ne_true, Text.decode?_encode]
  rw [document_eq, decoded, Option.bind_some]

theorem conforms_document : document.Conforms where
  written := fun draft printable => (document_encode draft.written).trans (draft?_written printable)
  unreadable := fun stream refused => by rw [document_eq, refused, Option.bind_none]

end Settings

namespace Session

/-- A run goes by the settings that its settings file says in writing. -/
theorem loaded?_of_written {reader : Settings.Reader} {arguments : Arguments} {tree : FileTree}
    {draft : Settings.Draft} {path : String} (conforms : reader.Conforms)
    (printable : draft.IsPrintable) (config : arguments.config = some path)
    (opened : tree.open? path = some ⟨Text.encode draft.written, false⟩) :
    loaded? reader arguments tree = some draft := by
  simp only [loaded?, config, opened, Option.bind_some]
  exact conforms.written draft printable

end Session

end DebugSymbols
