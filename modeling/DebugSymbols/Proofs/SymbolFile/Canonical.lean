import DebugSymbols.Proofs.Numeral
import DebugSymbols.SymbolFile.Text
import Mathlib.Data.List.Forall2
/-!
# The entries of a symbol file

Every label and every data declaration has one entry, whose address and text
follow from what was recorded.  Entries have only one sorted list.  A file
therefore depends neither on the order of the modules nor on the order of the
labels and data in them, as long as every address keeps its first function.
-/

namespace DebugSymbols

/-! ## The first function at an address -/

namespace Module

/-- The span is that of the first function opened at an address. -/
def FirstAt (module : Module) (address : Int64) (span : FunctionSpan) : Prop :=
  ∃ earlier later, module.functions = earlier ++ span :: later ∧ span.address = address ∧
    ∀ other ∈ earlier, other.address ≠ address

theorem functionAt?_eq_some_iff {module : Module} {address : Int64} {span : FunctionSpan} :
    module.functionAt? address = some span ↔ module.FirstAt address span := by
  rw [functionAt?, List.find?_eq_some_iff_append, FirstAt]
  constructor
  · rintro ⟨here, earlier, later, split, before⟩
    refine ⟨earlier, later, split, by simpa using here, fun other member => ?_⟩
    simpa using before other member
  · rintro ⟨earlier, later, split, here, before⟩
    refine ⟨by simpa using here, earlier, later, split, fun other member => ?_⟩
    simpa using before other member

end Module

namespace SymbolFile

/-- The size that is shown with a label: that of the first function at its address, unless the
version is too old or the size is 0. -/
def shownSize? (version : UInt32) (module : Module) (address : Int64) : Option Int64 :=
  if sizedVersion ≤ version then
    ((module.functionAt? address).map FunctionSpan.size).filter (· ≠ 0)
  else none

theorem shownSize?_eq_some_iff {version : UInt32} {module : Module} {address size : Int64} :
    shownSize? version module address = some size ↔
      2 ≤ version ∧ size ≠ 0 ∧ ∃ span, module.FirstAt address span ∧ span.size = size := by
  change _ ↔ sizedVersion ≤ version ∧ _
  simp only [shownSize?, ← Module.functionAt?_eq_some_iff]
  by_cases recent : sizedVersion ≤ version
  · cases module.functionAt? address with
    | none => simp [recent]
    | some span =>
        simp only [recent, if_true, true_and, Option.map_some, Option.filter_eq_some_iff,
          Option.some.injEq, decide_eq_true_eq, exists_eq_left']
        exact and_comm
  · simp [recent]

theorem shownSize?_eq_none_iff {version : UInt32} {module : Module} {address : Int64} :
    shownSize? version module address = none ↔
      ∀ span, 2 ≤ version → module.FirstAt address span → span.size = 0 := by
  rw [Option.eq_none_iff_forall_ne_some]
  constructor
  · intro unshown span recent first
    by_contra nonzero
    exact unshown span.size (shownSize?_eq_some_iff.2 ⟨recent, nonzero, span, first, rfl⟩)
  · intro unsized size shown
    obtain ⟨recent, nonzero, span, first, rfl⟩ := shownSize?_eq_some_iff.1 shown
    exact nonzero (unsized span recent first)

/-! ## What an entry tells -/

theorem toUInt32_toInt32 (address : Int64) : address.toInt32.toUInt32 = lowWord address := by
  apply UInt32.toBitVec_inj.1
  exact BitVec.signExtend_eq_setWidth_of_le _ (by decide)

/-- The text of a label: its name, followed by eight digits if a size is shown. -/
theorem text_ofSymbol (version : UInt32) (module : Module) (symbol : Symbol) :
    (Entry.ofSymbol version module symbol).text =
      match shownSize? version module symbol.address with
      | some size => symbol.name ++ "," ++ upperHex 8 (lowWord size).toNat
      | none => symbol.name := by
  simp only [Entry.ofSymbol, functionSize, shownSize?]
  by_cases recent : sizedVersion ≤ version
  · simp only [recent, true_and, if_true]
    cases module.functionAt? symbol.address with
    | none => simp
    | some span =>
        by_cases empty : span.size = 0
        · simp [empty, Option.filter_some]
        · simp [empty, Option.filter_some]
  · simp [recent]

inductive LabelText (version : UInt32) (module : Module) (symbol : Symbol) : String → Prop where
  | sized {span : FunctionSpan} {digits : String} (recent : 2 ≤ version)
      (first : module.FirstAt symbol.address span) (nonzero : span.size ≠ 0)
      (numeral : IsUpperHex 8 (lowWord span.size).toNat digits) (eight : digits.length = 8) :
      LabelText version module symbol (symbol.name ++ "," ++ digits)
  | plain (unsized : ∀ span, 2 ≤ version → module.FirstAt symbol.address span → span.size = 0) :
      LabelText version module symbol symbol.name

structure LabelEntry (version : UInt32) (module : Module) (symbol : Symbol) (entry : Entry) :
    Prop where
  address : entry.address.toUInt32 = lowWord symbol.address
  text : LabelText version module symbol entry.text

structure DatumEntry (datum : DataEntry) (entry : Entry) : Prop where
  address : entry.address.toUInt32 = lowWord datum.address
  text : ∃ digits, IsUpperHex 4 (lowWord datum.size).toNat digits ∧
    entry.text = "." ++ datum.kind.tag ++ ":" ++ digits

/-- The entries are those of a module, one for each label and one for each data declaration. -/
def ModuleEntries (version : UInt32) (module : Module) (entries : List Entry) : Prop :=
  ∃ labels data, entries = labels ++ data ∧
    List.Forall₂ (LabelEntry version module) module.symbols labels ∧
    List.Forall₂ DatumEntry module.data data

theorem labelEntry_ofSymbol (version : UInt32) (module : Module) (symbol : Symbol) :
    LabelEntry version module symbol (Entry.ofSymbol version module symbol) := by
  refine ⟨toUInt32_toInt32 symbol.address, ?_⟩
  rw [text_ofSymbol]
  cases shown : shownSize? version module symbol.address with
  | none => exact .plain (shownSize?_eq_none_iff.1 shown)
  | some size =>
      obtain ⟨recent, nonzero, span, first, rfl⟩ := shownSize?_eq_some_iff.1 shown
      have fits : (lowWord span.size).toNat < 16 ^ 8 := (lowWord span.size).toNat_lt
      exact .sized recent first nonzero (isUpperHex_upperHex (by decide) _)
        (length_upperHex_of_lt (by decide) fits)

theorem datumEntry_ofData (datum : DataEntry) : DatumEntry datum (Entry.ofData datum) where
  address := toUInt32_toInt32 datum.address
  text := ⟨_, isUpperHex_upperHex (by decide) _, rfl⟩

theorem moduleEntries_spec (version : UInt32) (module : Module) :
    ModuleEntries version module (moduleEntries version module) := by
  refine ⟨_, _, rfl, ?_, ?_⟩
  · simpa [List.forall₂_map_right_iff, List.forall₂_same] using
      fun symbol _ => labelEntry_ofSymbol version module symbol
  · simpa [List.forall₂_map_right_iff, List.forall₂_same] using
      fun datum _ => datumEntry_ofData datum

/-! ## One sorted list -/

theorem pairwise_sortEntries (entries : List Entry) :
    (sortEntries entries).Pairwise fun first second => first.precedes second = true := by
  apply List.pairwise_mergeSort
  · intro first second third left right
    exact Entry.precedes_trans left right
  · intro first second
    simpa using Entry.precedes_total first second

/-- However entries are given, they are listed in the same way. -/
theorem sortEntries_eq_of_perm {first second : List Entry} (perm : first.Perm second) :
    sortEntries first = sortEntries second := by
  have sorted : (sortEntries first).Perm (sortEntries second) :=
    (List.mergeSort_perm first _).trans (perm.trans (List.mergeSort_perm second _).symm)
  refine sorted.eq_of_pairwise ?_ (pairwise_sortEntries first) (pairwise_sortEntries second)
  intro entry other _ _ before behind
  exact Entry.precedes_antisymm before behind

/-- Two modules with the same labels and the same data up to their order, in which every address
has the same first function. -/
structure SameExport (first second : Module) : Prop where
  symbols : first.symbols.Perm second.symbols
  data : first.data.Perm second.data
  functionAt : ∀ address, first.functionAt? address = second.functionAt? address

theorem SameExport.moduleEntries_perm {first second : Module} (same : SameExport first second)
    (version : UInt32) :
    (moduleEntries version first).Perm (moduleEntries version second) := by
  have sizes : functionSize first = functionSize second := by
    funext address
    rw [functionSize, functionSize, same.functionAt]
  have labels : Entry.ofSymbol version first = Entry.ofSymbol version second := by
    funext symbol
    simp only [Entry.ofSymbol, sizes]
  rw [moduleEntries, moduleEntries, labels]
  exact (same.symbols.map _).append (same.data.map _)

/-- The entries depend on the modules only through what these export. -/
theorem entries_eq_of_forall₂ {first second : List Module}
    (same : List.Forall₂ SameExport first second) (version : UInt32) :
    entries version first = entries version second := by
  apply sortEntries_eq_of_perm
  induction same with
  | nil => exact .refl _
  | cons here _ ih =>
      rw [List.flatMap_cons, List.flatMap_cons]
      exact (here.moduleEntries_perm version).append ih

/-- Two modules with the same functions, and with the same labels and data up to their order. -/
structure Reordered (first second : Module) : Prop where
  symbols : first.symbols.Perm second.symbols
  data : first.data.Perm second.data
  functions : first.functions = second.functions

theorem Reordered.sameExport {first second : Module} (same : Reordered first second) :
    SameExport first second where
  symbols := same.symbols
  data := same.data
  functionAt := by
    intro address
    rw [Module.functionAt?, Module.functionAt?, same.functions]

/-- The same modules in another order, each with its labels and its data in another order. -/
def Rearranged (first second : List Module) : Prop :=
  ∃ middle, first.Perm middle ∧ List.Forall₂ Reordered middle second

theorem entries_eq_of_rearranged {first second : List Module} (same : Rearranged first second)
    (version : UInt32) : entries version first = entries version second := by
  obtain ⟨middle, modules, contents⟩ := same
  have moved : entries version first = entries version middle :=
    sortEntries_eq_of_perm (modules.flatMap_right _)
  have reordered : List.Forall₂ SameExport middle second :=
    contents.imp fun _ _ here => here.sameExport
  exact moved.trans (entries_eq_of_forall₂ reordered version)

/-- The entries of a file are those of all labels and data of its modules, each once.  They are
sorted by signed address and then by the octets of their text, and so they are the same for
modules that hold the same in another order. -/
theorem entries_canonical (version : UInt32) (modules : List Module) :
    ((entries version modules).Pairwise fun first second =>
        first.address.toInt < second.address.toInt ∨
          first.address = second.address ∧ Text.encode first.text ≤ Text.encode second.text) ∧
      (∃ parts, List.Forall₂ (ModuleEntries version) modules parts ∧
        (entries version modules).Perm parts.flatten) ∧
      ∀ other, Rearranged modules other →
        entries version other = entries version modules ∧
          ∀ sink, writeTo sink (entries version other) =
            writeTo sink (entries version modules) := by
  refine ⟨?_, ⟨modules.map (moduleEntries version), ?_, ?_⟩, ?_⟩
  · refine (pairwise_sortEntries _).imp fun before => ?_
    rcases Entry.precedes_iff.1 before with less | equal
    · exact Or.inl (Int32.lt_iff_toInt_lt.1 less)
    · exact Or.inr equal
  · simpa [List.forall₂_map_right_iff, List.forall₂_same] using
      fun module _ => moduleEntries_spec version module
  · rw [← List.flatMap_def]
    exact entries_perm version modules
  · intro other rearranged
    have same := entries_eq_of_rearranged rearranged version
    exact ⟨same.symm, fun sink => by rw [same]⟩

end SymbolFile

end DebugSymbols
