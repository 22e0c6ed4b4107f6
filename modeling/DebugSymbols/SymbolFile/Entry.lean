import DebugSymbols.Recorder.Module
import DebugSymbols.Text.Utf8
/-!
# Entries of a symbol file

Each label and each data declaration becomes one entry: the low half of its
address, read as a signed word, and a text.  Entries are listed by address and
then by the octets of their text, so that negative addresses come first.  This
is a linear order, so entries have one sorted list however they were given.
-/

namespace DebugSymbols.SymbolFile

structure Entry where
  address : Int32
  text : String
  deriving DecidableEq, Repr

namespace Entry

def precedes (first second : Entry) : Bool :=
  first.address < second.address ||
    (first.address == second.address && Text.encode first.text ≤ Text.encode second.text)

theorem precedes_iff {first second : Entry} :
    first.precedes second = true ↔
      first.address < second.address ∨
        first.address = second.address ∧ Text.encode first.text ≤ Text.encode second.text := by
  simp [precedes]

theorem precedes_total (first second : Entry) :
    first.precedes second = true ∨ second.precedes first = true := by
  rw [precedes_iff, precedes_iff]
  rcases Int.lt_trichotomy first.address.toInt second.address.toInt with less | same | more
  · exact Or.inl (Or.inl (Int32.lt_iff_toInt_lt.2 less))
  · have same := Int32.toInt_inj.1 same
    rcases List.le_total (Text.encode first.text) (Text.encode second.text) with before | behind
    · exact Or.inl (Or.inr ⟨same, before⟩)
    · exact Or.inr (Or.inr ⟨same.symm, behind⟩)
  · exact Or.inr (Or.inl (Int32.lt_iff_toInt_lt.2 more))

theorem precedes_trans {first second third : Entry} (left : first.precedes second = true)
    (right : second.precedes third = true) : first.precedes third = true := by
  rw [precedes_iff] at left right ⊢
  rcases left with less | ⟨same, before⟩
  · rcases right with further | ⟨equal, _⟩
    · exact Or.inl (Int32.lt_trans less further)
    · exact Or.inl (equal ▸ less)
  · rcases right with further | ⟨equal, behind⟩
    · exact Or.inl (same ▸ further)
    · exact Or.inr ⟨same.trans equal, List.le_trans before behind⟩

theorem precedes_antisymm {first second : Entry} (left : first.precedes second = true)
    (right : second.precedes first = true) : first = second := by
  rw [precedes_iff] at left right
  rcases left with less | ⟨same, before⟩
  · rcases right with more | ⟨equal, _⟩
    · exact absurd more (Int32.lt_asymm less)
    · exact absurd (equal ▸ less) Int32.lt_irrefl
  · rcases right with more | ⟨_, behind⟩
    · exact absurd (same ▸ more) Int32.lt_irrefl
    · have text := Text.encode_injective (List.le_antisymm before behind)
      cases first
      cases second
      simp_all

end Entry

/-- From this version on, labels of functions carry the size of the function. -/
def sizedVersion : UInt32 := 2

/-- The size of the first function at an address, or 0 if there is none. -/
def functionSize (module : Module) (address : Int64) : Int64 :=
  match module.functionAt? address with
  | some span => span.size
  | none => 0

/-- The entry of a label.  The size follows the name unless the version is too old or it is 0. -/
def Entry.ofSymbol (version : UInt32) (module : Module) (symbol : Symbol) : Entry :=
  let size := functionSize module symbol.address
  { address := symbol.address.toInt32
    text :=
      if sizedVersion ≤ version ∧ size ≠ 0 then
        symbol.name ++ "," ++ upperHex 8 (lowWord size).toNat
      else symbol.name }

/-- The entry of a data declaration: its tag and its size. -/
def Entry.ofData (entry : DataEntry) : Entry :=
  { address := entry.address.toInt32
    text := "." ++ entry.kind.tag ++ ":" ++ upperHex 4 (lowWord entry.size).toNat }

/-- The entries of one module: labels, then data, in the order in which they were recorded. -/
def moduleEntries (version : UInt32) (module : Module) : List Entry :=
  module.symbols.map (Entry.ofSymbol version module) ++ module.data.map Entry.ofData

def sortEntries (entries : List Entry) : List Entry :=
  entries.mergeSort Entry.precedes

def entries (version : UInt32) (modules : List Module) : List Entry :=
  sortEntries (modules.flatMap (moduleEntries version))

/-- Sorting neither drops nor repeats an entry. -/
theorem entries_perm (version : UInt32) (modules : List Module) :
    (entries version modules).Perm (modules.flatMap (moduleEntries version)) :=
  List.mergeSort_perm _ _

end DebugSymbols.SymbolFile
