import DebugSymbols.Proofs.SymbolFile.Canonical
import DebugSymbols.Proofs.SymbolFile.Lines
/-!
# What a symbol file tells

A label without a comma that does not begin with a point cannot be mistaken for
anything else on its line.  All facts about such labels and about data are read
back from a file.  Lost are only which module they were in, their order, and
the high halves of addresses and sizes.
-/

namespace DebugSymbols.SymbolFile

/-! ## Facts -/

inductive Fact where
  | label (address : UInt32) (name : String) (size : Option UInt32)
  | datum (address : UInt32) (kind : DataKind) (size : UInt32)
  deriving DecidableEq, Repr

namespace Fact

def ofSymbol (version : UInt32) (module : Module) (symbol : Symbol) : Fact :=
  .label (lowWord symbol.address) symbol.name
    ((shownSize? version module symbol.address).map lowWord)

def ofData (datum : DataEntry) : Fact :=
  .datum (lowWord datum.address) datum.kind (lowWord datum.size)

end Fact

/-- What a file has to tell about a label: the size of the first function at its address, unless
the version is too old or the size is 0. -/
inductive LabelFact (version : UInt32) (module : Module) (symbol : Symbol) : Fact → Prop where
  | sized {span : FunctionSpan} (recent : 2 ≤ version)
      (first : module.FirstAt symbol.address span) (nonzero : span.size ≠ 0) :
      LabelFact version module symbol
        (.label (lowWord symbol.address) symbol.name (some (lowWord span.size)))
  | plain (unsized : ∀ span, 2 ≤ version → module.FirstAt symbol.address span → span.size = 0) :
      LabelFact version module symbol (.label (lowWord symbol.address) symbol.name none)

/-- The facts are those about the labels and the data of a module. -/
def ModuleFacts (version : UInt32) (module : Module) (facts : List Fact) : Prop :=
  ∃ labels, facts = labels ++ module.data.map Fact.ofData ∧
    List.Forall₂ (LabelFact version module) module.symbols labels

def moduleFacts (version : UInt32) (module : Module) : List Fact :=
  module.symbols.map (Fact.ofSymbol version module) ++ module.data.map Fact.ofData

/-- Lists are related item by item by a function just when it maps one to the other. -/
theorem forall₂_iff_map_eq {α β : Type} {relation : α → β → Prop} {image : α → β}
    (functional : ∀ item other, relation item other ↔ image item = other) {first : List α}
    {second : List β} : List.Forall₂ relation first second ↔ first.map image = second := by
  have same : relation = fun item other => image item = other := by
    funext item other
    exact propext (functional item other)
  rw [same, ← List.forall₂_eq_eq_eq, List.forall₂_map_left_iff]

section Facts

variable (version : UInt32) (module : Module)

theorem labelFact_iff (symbol : Symbol) (fact : Fact) :
    LabelFact version module symbol fact ↔ Fact.ofSymbol version module symbol = fact := by
  constructor
  · rintro (⟨recent, first, nonzero⟩ | ⟨unsized⟩)
    · rw [Fact.ofSymbol, shownSize?_eq_some_iff.2 ⟨recent, nonzero, _, first, rfl⟩]
      rfl
    · rw [Fact.ofSymbol, shownSize?_eq_none_iff.2 unsized]
      rfl
  · rintro rfl
    rw [Fact.ofSymbol]
    cases shown : shownSize? version module symbol.address with
    | none => exact .plain (shownSize?_eq_none_iff.1 shown)
    | some size =>
        obtain ⟨recent, nonzero, span, first, rfl⟩ := shownSize?_eq_some_iff.1 shown
        exact .sized recent first nonzero

theorem moduleFacts_iff (told : List Fact) :
    ModuleFacts version module told ↔ moduleFacts version module = told := by
  simp only [ModuleFacts, forall₂_iff_map_eq (labelFact_iff version module)]
  constructor
  · rintro ⟨labels, rfl, rfl⟩
    rfl
  · rintro rfl
    exact ⟨_, rfl, rfl⟩

end Facts

/-! ## Reading an entry -/

def cutAt (separator : Char) : List Char → List Char × Option (List Char)
  | [] => ([], none)
  | character :: rest =>
      if character = separator then ([], some rest)
      else (character :: (cutAt separator rest).1, (cutAt separator rest).2)

theorem cutAt_of_not_mem {separator : Char} {text : List Char} (absent : separator ∉ text) :
    cutAt separator text = (text, none) := by
  induction text with
  | nil => rfl
  | cons character rest ih =>
      have other : character ≠ separator := fun same => absent (same ▸ List.mem_cons_self)
      have later := ih fun member => absent (List.mem_cons_of_mem _ member)
      simp [cutAt, other, later]

theorem cutAt_append_cons {separator : Char} {text : List Char} (absent : separator ∉ text)
    (rest : List Char) : cutAt separator (text ++ separator :: rest) = (text, some rest) := by
  induction text with
  | nil => simp [cutAt]
  | cons character text ih =>
      have other : character ≠ separator := fun same => absent (same ▸ List.mem_cons_self)
      have later := ih fun member => absent (List.mem_cons_of_mem _ member)
      simp [cutAt, other, later]

/-- The low word of which the digits are the numeral. -/
def readWord? (digits : List Char) : Option UInt32 :=
  (Radix.hexadecimal.read? digits).map UInt32.ofNat

theorem readWord?_upperHex (width : Nat) (word : UInt32) :
    readWord? (upperHex width word.toNat).toList = some word := by
  rw [readWord?, read?_upperHex, Option.map_some, UInt32.ofNat_toNat]

def readDatum? (address : UInt32) (content : List Char) : Option Fact :=
  match cutAt ':' content with
  | (_, none) => none
  | (tag, some digits) =>
      match DataKind.ofTag? (String.ofList tag), readWord? digits with
      | some kind, some size => some (.datum address kind size)
      | _, _ => none

def readLabel? (address : UInt32) (content : List Char) : Option Fact :=
  match cutAt ',' content with
  | (name, none) => some (.label address (String.ofList name) none)
  | (name, some digits) =>
      (readWord? digits).map fun size => .label address (String.ofList name) (some size)

def Entry.fact? (entry : Entry) : Option Fact :=
  match entry.text.toList with
  | '.' :: content => readDatum? entry.address.toUInt32 content
  | content => readLabel? entry.address.toUInt32 content

/-- A name that can be told from sizes, from data and from the end of its line. -/
structure PlainName (name : String) : Prop where
  newline : '\n' ∉ name.toList
  comma : ',' ∉ name.toList
  point : name.toList.head? ≠ some '.'

theorem Entry.fact?_eq_readLabel? {entry : Entry} (label : entry.text.toList.head? ≠ some '.') :
    entry.fact? = readLabel? entry.address.toUInt32 entry.text.toList := by
  rw [fact?]
  split
  case h_1 content same =>
    rw [same] at label
    exact absurd rfl label
  case h_2 => rfl

theorem fact?_ofSymbol (version : UInt32) (module : Module) {symbol : Symbol}
    (plain : PlainName symbol.name) :
    (Entry.ofSymbol version module symbol).fact? = some (Fact.ofSymbol version module symbol) := by
  have address : (Entry.ofSymbol version module symbol).address.toUInt32 =
      lowWord symbol.address := toUInt32_toInt32 symbol.address
  have text := congrArg String.toList (text_ofSymbol version module symbol)
  cases shown : shownSize? version module symbol.address with
  | none =>
      rw [shown] at text
      have unmarked := plain.point
      rw [← text] at unmarked
      rw [Entry.fact?_eq_readLabel? unmarked, text, address, readLabel?,
        cutAt_of_not_mem plain.comma]
      simp [Fact.ofSymbol, shown]
  | some size =>
      rw [shown] at text
      have split : (Entry.ofSymbol version module symbol).text.toList =
          symbol.name.toList ++ ',' :: (upperHex 8 (lowWord size).toNat).toList := by
        rw [text]
        simp
      have unmarked : (Entry.ofSymbol version module symbol).text.toList.head? ≠ some '.' := by
        have point := plain.point
        rw [split]
        cases characters : symbol.name.toList with
        | nil => simp
        | cons first rest => rwa [characters] at point
      rw [Entry.fact?_eq_readLabel? unmarked, split, address, readLabel?,
        cutAt_append_cons plain.comma]
      simp [Fact.ofSymbol, shown, readWord?_upperHex]

theorem fact?_ofData (datum : DataEntry) :
    (Entry.ofData datum).fact? = some (Fact.ofData datum) := by
  have address : (Entry.ofData datum).address.toUInt32 = lowWord datum.address :=
    toUInt32_toInt32 datum.address
  have split : (Entry.ofData datum).text.toList =
      '.' :: (datum.kind.tag.toList ++ ':' :: (upperHex 4 (lowWord datum.size).toNat).toList) := by
    simp [Entry.ofData]
  have colon : ':' ∉ datum.kind.tag.toList := by
    cases datum.kind <;> decide
  have kind : DataKind.ofTag? datum.kind.tag = some datum.kind :=
    DataKind.ofTag?_eq_some_iff.2 rfl
  rw [Entry.fact?, split, address]
  simp [readDatum?, cutAt_append_cons colon, kind, readWord?_upperHex, Fact.ofData]

/-! ## Reading a file -/

def recallFacts? (octets : List UInt8) : Option (List Fact) :=
  (read? octets).bind fun entries => entries.mapM Entry.fact?

/-- If every entry can be read, so can the list. -/
theorem mapM_fact? {entries : List Entry} (told : ∀ entry ∈ entries, entry.fact?.isSome) :
    entries.mapM Entry.fact? = some (entries.filterMap Entry.fact?) := by
  induction entries with
  | nil => rfl
  | cons entry rest ih =>
      obtain ⟨fact, here⟩ := Option.isSome_iff_exists.1 (told entry List.mem_cons_self)
      have others := ih fun other member => told other (List.mem_cons_of_mem _ member)
      rw [List.mapM_cons, here, others, List.filterMap_cons_some here]
      rfl

section Modules

variable (version : UInt32) {module : Module} {modules : List Module}

/-- An entry is that of a label or that of data. -/
theorem mem_entries_iff {version : UInt32} {entry : Entry} :
    entry ∈ entries version modules ↔ ∃ module ∈ modules,
      (∃ symbol ∈ module.symbols, Entry.ofSymbol version module symbol = entry) ∨
        ∃ datum ∈ module.data, Entry.ofData datum = entry := by
  rw [(entries_perm version modules).mem_iff, List.mem_flatMap]
  simp only [moduleEntries, List.mem_append, List.mem_map]

theorem filterMap_moduleEntries (plain : ∀ symbol ∈ module.symbols, PlainName symbol.name) :
    (moduleEntries version module).filterMap Entry.fact? = moduleFacts version module := by
  have labels : module.symbols.filterMap (Entry.fact? ∘ Entry.ofSymbol version module) =
      module.symbols.filterMap (some ∘ Fact.ofSymbol version module) :=
    List.filterMap_congr fun symbol member => fact?_ofSymbol version module (plain symbol member)
  have data : module.data.filterMap (Entry.fact? ∘ Entry.ofData) =
      module.data.filterMap (some ∘ Fact.ofData) :=
    List.filterMap_congr fun datum _ => fact?_ofData datum
  rw [moduleEntries, List.filterMap_append, List.filterMap_map, List.filterMap_map, labels, data,
    List.filterMap_eq_map, List.filterMap_eq_map, moduleFacts]

theorem filterMap_flatMap_moduleEntries
    (plain : ∀ module ∈ modules, ∀ symbol ∈ module.symbols, PlainName symbol.name) :
    (modules.flatMap (moduleEntries version)).filterMap Entry.fact? =
      modules.flatMap (moduleFacts version) := by
  induction modules with
  | nil => rfl
  | cons module rest ih =>
      have here := filterMap_moduleEntries version (plain module List.mem_cons_self)
      have others := ih fun other member => plain other (List.mem_cons_of_mem _ member)
      rw [List.flatMap_cons, List.filterMap_append, here, others]
      rfl

/-- The character is in nothing that the line of an entry shows besides the name of a label. -/
structure Foreign (character : Char) : Prop where
  digit : digitValue? character = none
  blank : character ≠ ' '
  comma : character ≠ ','
  tag : ∀ kind : DataKind, character ∉ ("." ++ kind.tag ++ ":").toList

theorem foreign_newline : Foreign '\n' :=
  ⟨by decide, by decide, by decide, fun kind => by cases kind <;> decide⟩

variable {character : Char}

theorem mem_text_ofSymbol_iff (foreign : Foreign character) {symbol : Symbol} :
    character ∈ (Entry.ofSymbol version module symbol).text.toList ↔
      character ∈ symbol.name.toList := by
  rw [text_ofSymbol]
  cases shownSize? version module symbol.address with
  | none => rfl
  | some size =>
      have numeral : character ∉ (upperHex 8 (lowWord size).toNat).toList :=
        not_mem_upperHex foreign.digit
      simp [foreign.comma, numeral]

theorem not_mem_text_ofData (foreign : Foreign character) (datum : DataEntry) :
    character ∉ (Entry.ofData datum).text.toList := by
  have numeral : character ∉ (upperHex 4 (lowWord datum.size).toNat).toList :=
    not_mem_upperHex foreign.digit
  rw [Entry.ofData, String.toList_append, List.mem_append]
  rintro (marked | digit)
  · exact foreign.tag datum.kind marked
  · exact numeral digit

/-- A foreign character comes into a file only with the name of a label. -/
theorem forall_not_mem_text_iff (foreign : Foreign character) :
    (∀ entry ∈ entries version modules, character ∉ entry.text.toList) ↔
      ∀ module ∈ modules, ∀ symbol ∈ module.symbols, character ∉ symbol.name.toList := by
  constructor
  · intro clean module present symbol held inside
    have shown : character ∈ (Entry.ofSymbol version module symbol).text.toList :=
      (mem_text_ofSymbol_iff version foreign).2 inside
    exact clean _ (mem_entries_iff.2 ⟨module, present, Or.inl ⟨symbol, held, rfl⟩⟩) shown
  · intro clean entry member
    obtain ⟨module, present, ⟨symbol, held, rfl⟩ | ⟨datum, held, rfl⟩⟩ := mem_entries_iff.1 member
    · rw [mem_text_ofSymbol_iff version foreign]
      exact clean module present symbol held
    · exact not_mem_text_ofData foreign datum

end Modules

/-- The facts about all labels and data are read back from the file that was written, each once,
as long as the names of the labels are plain. -/
theorem recall_written_facts (version : UInt32) (modules : List Module)
    (plain : ∀ module ∈ modules, ∀ symbol ∈ module.symbols, PlainName symbol.name) :
    (writeTo {} (entries version modules)).1 = true ∧
      ∃ found, recallFacts? (writeTo {} (entries version modules)).2.taken = some found ∧
        ∃ parts, List.Forall₂ (ModuleFacts version) modules parts ∧ found.Perm parts.flatten := by
  obtain ⟨ended, taken⟩ := writeTo_new (entries version modules)
  have clean := (forall_not_mem_text_iff version foreign_newline).2
    fun module present symbol held => (plain module present symbol held).newline
  have read := read?_encode_text clean
  have told : ∀ entry ∈ entries version modules, entry.fact?.isSome := by
    intro entry member
    obtain ⟨module, present, ⟨symbol, held, rfl⟩ | ⟨datum, held, rfl⟩⟩ := mem_entries_iff.1 member
    · rw [fact?_ofSymbol version module (plain module present symbol held)]
      rfl
    · rw [fact?_ofData]
      rfl
  refine ⟨ended, (entries version modules).filterMap Entry.fact?, ?_,
    modules.map (moduleFacts version), (forall₂_iff_map_eq (moduleFacts_iff version)).2 rfl, ?_⟩
  · rw [taken, recallFacts?, read, Option.bind_some, mapM_fact? told]
  · rw [← List.flatMap_def, ← filterMap_flatMap_moduleEntries version plain]
    exact (entries_perm version modules).filterMap _

/-- Two labels that differ only above the low word have one address in the file, and each keeps
the size of the function at its own address. -/
theorem recall_colliding_labels :
    let modules : List Module :=
      [{ symbols := [⟨0x100001000, "high"⟩, ⟨0x1000, "low"⟩], functions := [⟨0x1000, 0x20⟩] },
        { data := [⟨-16, 0x12345, .ascii⟩] }]
    (∀ module ∈ modules, ∀ symbol ∈ module.symbols, PlainName symbol.name) ∧
      ∃ found, recallFacts? (writeTo {} (entries 2 modules)).2.taken = some found ∧
        found.Perm [.label 0x1000 "high" none, .label 0x1000 "low" (some 0x20),
          .datum 0xFFFFFFF0 .ascii 0x12345] := by
  intro modules
  have plain : ∀ module ∈ modules, ∀ symbol ∈ module.symbols, PlainName symbol.name := by
    simp only [modules, List.forall_mem_cons, List.not_mem_nil, false_implies, implies_true,
      and_true]
    exact ⟨⟨by decide, by decide, by decide⟩, ⟨by decide, by decide, by decide⟩⟩
  obtain ⟨_, found, recalled, parts, told, same⟩ := recall_written_facts 2 modules plain
  rw [← (forall₂_iff_map_eq (moduleFacts_iff 2)).1 told] at same
  exact ⟨plain, found, recalled, same⟩

end DebugSymbols.SymbolFile
