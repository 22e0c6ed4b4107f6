import DebugSymbols.Proofs.SymbolFile.Framing
import DebugSymbols.Proofs.Trace.LabelNames
/-!
# Framing of replayed recordings

Whatever stands in traces, the file of what they record has one newline for the
header and one for each entry, and it closes with the terminator.  That this is
the only terminator depends on the names of labels, for a name may have one.
-/

namespace DebugSymbols.Trace

open SymbolFile (ender octetLines shownLines)

/-- The file of a replayed recording closes with the terminator and has as many newlines as
lines.  The terminator occurs nowhere else, and a reader that stops at the first one has seen all
lines, just if no recorded name has a terminator. -/
theorem replayed_file_framed (settings : Settings) (traces : List (String × Option Text.Stream))
    (version : UInt32) :
    let modules := (Session.replayTraces (Session.initial settings) traces).2.recorder.modules
    let entries := SymbolFile.entries version modules
    let file := (SymbolFile.writeTo {} entries).2.taken
    (SymbolFile.writeTo {} entries).1 = true ∧
      file.getLast? = some ender ∧
      file.count Text.newline = entries.length + 1 ∧
      (file.count ender = 1 ↔
        ∀ module ∈ modules, ∀ symbol ∈ module.symbols, '\x1a' ∉ symbol.name.toList) ∧
      (shownLines file = octetLines entries ↔
        ∀ module ∈ modules, ∀ symbol ∈ module.symbols, '\x1a' ∉ symbol.name.toList) := by
  intro modules entries file
  obtain ⟨ended, taken⟩ := SymbolFile.writeTo_new entries
  have written : file = Text.encode (SymbolFile.text entries) := taken
  have clean : ∀ entry ∈ entries, '\n' ∉ entry.text.toList := by
    refine (SymbolFile.forall_not_mem_text_iff version SymbolFile.foreign_newline).2 ?_
    intro module standing symbol member
    exact Text.newline_not_mem_of_solid (isBlank_of_replayTraces settings traces standing member)
  have names : (∀ entry ∈ entries, '\x1a' ∉ entry.text.toList) ↔
      ∀ module ∈ modules, ∀ symbol ∈ module.symbols, '\x1a' ∉ symbol.name.toList :=
    SymbolFile.forall_not_mem_text_iff version SymbolFile.foreign_ender
  rw [written, ← names]
  exact ⟨ended, SymbolFile.getLast?_encode_text entries,
    SymbolFile.count_newline_encode_text clean, SymbolFile.count_ender_encode_text_eq_one_iff,
    SymbolFile.shownLines_encode_text_eq_iff clean⟩

/-- A label that has a terminator in its name, and so hides itself from a reader that stops
there. -/
theorem label_hides_itself :
    let traces := [("t", some ⟨Text.encode "label 0x10 a\x1ab\n", false⟩)]
    let modules := (Session.replayTraces (Session.initial {}) traces).2.recorder.modules
    let entries := SymbolFile.entries 1 modules
    let file := (SymbolFile.writeTo {} entries).2.taken
    file.count ender = 2 ∧ shownLines file = [Text.encode "00000000 0"] ∧
      octetLines entries = [Text.encode "00000000 0", Text.encode "00000010 a\x1ab"] := by
  decide +kernel

end DebugSymbols.Trace
