import DebugSymbols.Listing
import DebugSymbols.Proofs.Recorder.Tables
import DebugSymbols.Proofs.SymbolFile.Canonical
/-!
# Listings beside symbol files

A listing and a symbol file are printed from the same modules.  Each label and
each data declaration has one line in the listing and one entry in the file,
and the two tell the same: the digits of the address, the tag and the digits of
data, and the size of a function as far as the file has room for it.  Every line
also names the place at which its address was first mentioned.
-/

namespace DebugSymbols

/-! ## Where an address comes from -/

/-- The place is that of the first mention of the address in the module of the token. -/
def FirstMention (mentions : List Mention) (token : Option FileToken) (address : Int64)
    (place : Position) : Prop :=
  ∃ earlier later, mentions = earlier ++ ⟨token, address, place⟩ :: later ∧
    ∀ other ∈ earlier, other.token = token → other.address ≠ address

theorem firstMention_of_mem {mentions : List Mention} {token : Option FileToken}
    {mention : Mention} (first : mention ∈ firstMentions token mentions) :
    FirstMention mentions token mention.address mention.place := by
  rw [← filter_creations] at first
  obtain ⟨created, here⟩ := List.mem_filter.1 first
  obtain ⟨earlier, later, split, before⟩ := Table.exists_of_mem_firstBy created
  cases of_decide_eq_true here
  refine ⟨earlier, later, split, fun other member sameToken sameAddress => ?_⟩
  exact before other member (by rw [sameToken, sameAddress])

namespace Recorder

/-- The source of a known address is its first mention. -/
theorem exists_sourceOf? {past : List Moment} {recorder : Recorder} (good : recorder.WellFormed)
    (tables : Tables past recorder) {index : Nat} {module : Module}
    (found : recorder.modules[index]? = some module) {address : Int64}
    (known : address ∈ module.known) :
    ∃ place, FirstMention (mentions past) module.token address place ∧
      recorder.sourceOf? index address = some place := by
  have whole := good.module_wellFormed found
  rw [← whole.map_address_addresses] at known
  obtain ⟨entry, member, rfl⟩ := List.mem_map.1 known
  have record : module.recordOf? entry.address = some entry :=
    whole.recordOf?_eq_some_iff.2 ⟨member, rfl⟩
  have addresses := tables.addresses_eq module.token
  rw [moduleAt_eq good.tokens_nodup found] at addresses
  have told := List.mem_map_of_mem (f := recorder.located) member
  rw [addresses] at told
  obtain ⟨mention, first, same⟩ := List.mem_map.1 told
  have address : mention.address = entry.address := congrArg Prod.fst same
  have place : some mention.place =
      (recorder.paths.path? entry.file).map fun file => ⟨file, entry.line⟩ :=
    congrArg Prod.snd same
  refine ⟨mention.place, address ▸ firstMention_of_mem first, ?_⟩
  rw [sourceOf?, found, Option.bind_some, record, Option.bind_some, place]

end Recorder

namespace Listing

/-- The text names the place of the first mention. -/
def IsOrigin (mentions : List Mention) (token : Option FileToken) (address : Int64)
    (origin : String) : Prop :=
  ∃ place, FirstMention mentions token address place ∧
    origin = place.file ++ ":" ++ decimal place.line ∧ origin ≠ "?"

theorem renderSource_ne (place : Position) : renderSource (some place) ≠ "?" := by
  intro same
  have colon : ':' ∈ (renderSource (some place)).toList := by simp [renderSource]
  rw [same] at colon
  exact absurd colon (by decide)

/-! ## Sizes of functions -/

/-- The size of the function at an address, as it stands in brackets in a line and behind a comma
in an entry.  A line has brackets just if there is a function, and all digits in them.  An entry
has a comma just if the number in brackets is not 0, and behind it the last eight of the digits. -/
structure SizesAgree (module : Module) (address : Int64) (bracketed suffix : Option String) :
    Prop where
  bracketed_some : ∀ digits, bracketed = some digits →
    ∃ span, module.FirstAt address span ∧ IsUpperHex 1 span.size.toUInt64.toNat digits
  bracketed_none : bracketed = none → ∀ span, ¬module.FirstAt address span
  suffix_iff : suffix.isSome ↔
    ∃ digits value, bracketed = some digits ∧ IsUpperHex 1 value digits ∧ value ≠ 0
  suffix_digits : ∀ digits, suffix = some digits → ∃ whole, bracketed = some whole ∧
    digits.toList = (Text.padLeft 8 '0' whole.toList).rtake 8

theorem toNat_toUInt64_eq_zero_iff {size : Int64} : size.toUInt64.toNat = 0 ↔ size = 0 := by
  constructor
  · intro zero
    have same : size.toUInt64 = (0 : Int64).toUInt64 := UInt64.toNat_inj.1 zero
    exact congrArg Int64.ofUInt64 same
  · rintro rfl
    rfl

theorem SizesAgree.of_none {module : Module} {address : Int64}
    (absent : ∀ span, ¬module.FirstAt address span) : SizesAgree module address none none where
  bracketed_some := fun _ impossible => nomatch impossible
  bracketed_none := fun _ => absent
  suffix_iff := by simp
  suffix_digits := fun _ impossible => nomatch impossible

/-- A span is shown with all its digits in brackets, and with the last eight behind a comma. -/
theorem SizesAgree.of_firstAt {module : Module} {address : Int64} {span : FunctionSpan}
    (first : module.FirstAt address span) :
    SizesAgree module address (some (upperHex 0 span.size.toUInt64.toNat))
      (if span.size = 0 then none else some (upperHex 8 (lowWord span.size).toNat)) where
  bracketed_some := by
    rintro digits ⟨⟩
    exact ⟨span, first, isUpperHex_upperHex_zero _⟩
  bracketed_none := fun impossible => nomatch impossible
  suffix_iff := by
    have numeral := isUpperHex_upperHex_zero span.size.toUInt64.toNat
    by_cases zero : span.size = 0
    · rw [if_pos zero]
      refine ⟨(fun impossible => nomatch impossible), ?_⟩
      rintro ⟨digits, value, ⟨⟩, read, nonzero⟩
      have same := Option.some.inj (read.value.symm.trans numeral.value)
      exact absurd (same.trans (toNat_toUInt64_eq_zero_iff.2 zero)) nonzero
    · rw [if_neg zero]
      refine ⟨fun _ => ⟨_, _, rfl, numeral, ?_⟩, fun _ => rfl⟩
      exact mt toNat_toUInt64_eq_zero_iff.1 zero
  suffix_digits := by
    intro digits shown
    split at shown
    case isTrue => cases shown
    case isFalse =>
      cases shown
      refine ⟨_, rfl, ?_⟩
      rw [lowWord, UInt64.toNat_toUInt32]
      exact toList_upperHex_mod (by decide) _

/-! ## One label and one data declaration -/

structure Twin where
  line : String
  entry : SymbolFile.Entry

def line (digits shown origin : String) : String :=
  "[" ++ digits ++ "]         | " ++ shown ++ " ; " ++ origin ++ "\n"

structure AddressDigits (address : Int64) (digits : String) : Prop where
  numeral : IsUpperHex 8 (lowWord address).toNat digits
  eight : digits.length = 8

def labelShown (name : String) (bracketed : Option String) : String :=
  styled [.green] (name ++ ":") ++
    bracketed.elim "" fun digits => " " ++ styled [.cyan] ("[" ++ digits ++ "]")

def labelText (name : String) (suffix : Option String) : String :=
  name ++ suffix.elim "" fun digits => "," ++ digits

/-- The line and the entry tell the same about a label. -/
structure LabelTwin (mentions : List Mention) (module : Module) (symbol : Symbol) (twin : Twin) :
    Prop where
  digits : AddressDigits symbol.address twin.entry.digits
  told : ∃ bracketed suffix origin, SizesAgree module symbol.address bracketed suffix ∧
    IsOrigin mentions module.token symbol.address origin ∧
    twin.line = line twin.entry.digits (labelShown symbol.name bracketed) origin ∧
    twin.entry.text = labelText symbol.name suffix

/-- The line and the entry tell the same about a data declaration. -/
structure DatumTwin (mentions : List Mention) (module : Module) (datum : DataEntry)
    (twin : Twin) : Prop where
  digits : AddressDigits datum.address twin.entry.digits
  told : ∃ size origin, IsUpperHex 4 (lowWord datum.size).toNat size ∧
    IsOrigin mentions module.token datum.address origin ∧
    twin.line =
      line twin.entry.digits (styled [.yellow] ("." ++ datum.kind.tag ++ " " ++ size)) origin ∧
    twin.entry.text = "." ++ datum.kind.tag ++ ":" ++ size

section Twins

variable {mentions : List Mention} {version : UInt32} {module : Module} {place : Position}

theorem isOrigin_renderSource {token : Option FileToken} {address : Int64}
    (first : FirstMention mentions token address place) :
    IsOrigin mentions token address (renderSource (some place)) :=
  ⟨place, first, rfl, renderSource_ne place⟩

theorem digits_toInt32 (address : Int64) (text : String) :
    (⟨address.toInt32, text⟩ : SymbolFile.Entry).digits = upperHex 8 (lowWord address).toNat := by
  rw [SymbolFile.Entry.digits, SymbolFile.toUInt32_toInt32]

theorem addressDigits_upperHex (address : Int64) :
    AddressDigits address (upperHex 8 (lowWord address).toNat) where
  numeral := isUpperHex_upperHex (by decide) _
  eight := length_upperHex_of_lt (by decide) (lowWord address).toNat_lt

/-- The text of a label in a recent file, by its first function. -/
theorem text_ofSymbol_of_recent (recent : 2 ≤ version) {symbol : Symbol} {span : FunctionSpan}
    (first : module.FirstAt symbol.address span) :
    (SymbolFile.Entry.ofSymbol version module symbol).text = labelText symbol.name
      (if span.size = 0 then none else some (upperHex 8 (lowWord span.size).toNat)) := by
  rw [SymbolFile.text_ofSymbol]
  by_cases zero : span.size = 0
  · have unshown : SymbolFile.shownSize? version module symbol.address = none := by
      refine SymbolFile.shownSize?_eq_none_iff.2 fun other _ firstOther => ?_
      have found := Module.functionAt?_eq_some_iff.2 first
      cases found.symm.trans (Module.functionAt?_eq_some_iff.2 firstOther)
      exact zero
    rw [unshown, if_pos zero]
    exact String.append_empty.symm
  · have shown : SymbolFile.shownSize? version module symbol.address = some span.size :=
      SymbolFile.shownSize?_eq_some_iff.2 ⟨recent, zero, span, first, rfl⟩
    rw [shown, if_neg zero]
    exact String.append_assoc

theorem render_label (name : String) (size : Option Int64) :
    (Item.label name size).render =
      labelShown name (size.map fun size => upperHex 0 size.toUInt64.toNat) := by
  cases size with
  | none => exact String.append_empty.symm
  | some size => exact String.append_assoc

theorem labelTwin (recent : 2 ≤ version) {symbol : Symbol}
    (first : FirstMention mentions module.token symbol.address place) :
    LabelTwin mentions module symbol
      ⟨Row.render ⟨symbol.address,
          .label symbol.name ((module.functionAt? symbol.address).map (·.size)), some place⟩,
        SymbolFile.Entry.ofSymbol version module symbol⟩ := by
  have digits := digits_toInt32 symbol.address
    (SymbolFile.Entry.ofSymbol version module symbol).text
  have origin := isOrigin_renderSource first
  have shown (size : Option Int64) := congrArg
    (line (upperHex 8 (lowWord symbol.address).toNat) · (renderSource (some place)))
    (render_label symbol.name size)
  refine ⟨digits ▸ addressDigits_upperHex symbol.address, ?_⟩
  cases found : module.functionAt? symbol.address with
  | none =>
      have absent : ∀ span, ¬module.FirstAt symbol.address span := by
        intro span there
        cases found.symm.trans (Module.functionAt?_eq_some_iff.2 there)
      have unshown : SymbolFile.shownSize? version module symbol.address = none :=
        SymbolFile.shownSize?_eq_none_iff.2 fun span _ there => absurd there (absent span)
      refine ⟨none, none, _, .of_none absent, origin, digits ▸ shown none, ?_⟩
      rw [SymbolFile.text_ofSymbol, unshown]
      exact String.append_empty.symm
  | some span =>
      have there := Module.functionAt?_eq_some_iff.1 found
      exact ⟨_, _, _, .of_firstAt there, origin, digits ▸ shown (some span.size),
        text_ofSymbol_of_recent recent there⟩

theorem datumTwin {datum : DataEntry}
    (first : FirstMention mentions module.token datum.address place) :
    DatumTwin mentions module datum
      ⟨Row.render ⟨datum.address, .data datum.kind datum.size, some place⟩,
        SymbolFile.Entry.ofData datum⟩ := by
  have digits := digits_toInt32 datum.address (SymbolFile.Entry.ofData datum).text
  have numeral : IsUpperHex 4 (lowWord datum.size).toNat (upperHex 4 (lowWord datum.size).toNat) :=
    isUpperHex_upperHex (by decide) _
  refine ⟨digits ▸ addressDigits_upperHex datum.address, _, _, numeral,
    isOrigin_renderSource first, ?_, rfl⟩
  exact digits ▸ rfl

end Twins

/-! ## Whole listings -/

structure TwinSection where
  title : String
  twins : List Twin

def TwinSection.text (part : TwinSection) : String :=
  heading part.title ++ String.join (part.twins.map Twin.line)

/-- A module has one line beside one entry for each label, and then for each data declaration. -/
def ModuleTwins (mentions : List Mention) (module : Module) (twins : List Twin) : Prop :=
  ∃ labels data, twins = labels ++ data ∧
    List.Forall₂ (LabelTwin mentions module) module.symbols labels ∧
    List.Forall₂ (DatumTwin mentions module) module.data data

end Listing

namespace Recorder

open Listing

def twins (recorder : Recorder) (version : UInt32) (module : Module) (index : Nat) : List Twin :=
  ((recorder.listingRows module index).zip (SymbolFile.moduleEntries version module)).map
    fun pair => ⟨pair.1.render, pair.2⟩

def twinSections (recorder : Recorder) (tokens : FileTokens) (version : UInt32) :
    List TwinSection :=
  recorder.modules.zipIdx.map fun (module, index) =>
    ⟨moduleTitle tokens module index, recorder.twins version module index⟩

variable (recorder : Recorder) (tokens : FileTokens) (version : UInt32)

theorem length_listingRows (module : Module) (index : Nat) :
    (recorder.listingRows module index).length =
      (SymbolFile.moduleEntries version module).length := by
  simp [listingRows, SymbolFile.moduleEntries]

/-- No line is left out and none is added. -/
theorem map_line_twins (module : Module) (index : Nat) :
    (recorder.twins version module index).map Twin.line =
      (recorder.listingRows module index).map Row.render := by
  have length := recorder.length_listingRows version module index
  have rows := List.map_fst_zip (Nat.le_of_eq length)
  rw [twins, List.map_map, ← congrArg (List.map Row.render) rows, List.map_map]
  rfl

/-- No entry is left out and none is added. -/
theorem map_entry_twins (module : Module) (index : Nat) :
    (recorder.twins version module index).map Twin.entry =
      SymbolFile.moduleEntries version module := by
  have length := recorder.length_listingRows version module index
  have entries := List.map_snd_zip (Nat.le_of_eq length.symm)
  rw [twins, List.map_map]
  exact entries

theorem render_listing :
    Listing.render (recorder.listing tokens) =
      String.join ((recorder.twinSections tokens version).map TwinSection.text) ++ footing := by
  have sections : (recorder.listing tokens).map Section.render =
      (recorder.twinSections tokens version).map TwinSection.text := by
    rw [listing, twinSections, List.map_map, List.map_map]
    refine List.map_congr_left fun (module, index) _ => ?_
    have lines := recorder.map_line_twins version module index
    exact (congrArg (heading (moduleTitle tokens module index) ++ String.join ·) lines).symm
  rw [Listing.render, sections]

theorem entries_twinSections :
    ((recorder.twinSections tokens version).flatMap TwinSection.twins).map Twin.entry =
      recorder.modules.flatMap (SymbolFile.moduleEntries version) := by
  have numbered : recorder.modules.zipIdx.map Prod.fst = recorder.modules :=
    List.zipIdx_map_fst 0 recorder.modules
  rw [twinSections, List.flatMap_map, List.map_flatMap]
  simp only [map_entry_twins]
  rw [← congrArg (List.flatMap (SymbolFile.moduleEntries version)) numbered, List.flatMap_map]

variable {recorder version}

/-- In a recording every line and its entry tell the same. -/
theorem moduleTwins {past : List Moment} (good : recorder.WellFormed)
    (tables : Tables past recorder) (recent : 2 ≤ version) {module : Module} {index : Nat}
    (found : recorder.modules[index]? = some module) :
    ModuleTwins (mentions past) module (recorder.twins version module index) := by
  have whole := good.module_wellFormed found
  rw [twins, listingRows, SymbolFile.moduleEntries, List.zip_append (by simp), List.map_append,
    List.zip_map', List.zip_map', List.map_map, List.map_map]
  refine ⟨_, _, rfl, ?_, ?_⟩
  · refine List.forall₂_map_right_iff.2 (List.forall₂_same.2 fun symbol member => ?_)
    obtain ⟨place, first, source⟩ :=
      exists_sourceOf? good tables found (whole.symbols_known symbol member)
    have twin := labelTwin recent first
    rwa [← source] at twin
  · refine List.forall₂_map_right_iff.2 (List.forall₂_same.2 fun datum member => ?_)
    obtain ⟨place, first, source⟩ :=
      exists_sourceOf? good tables found (whole.data_known datum member)
    have twin := datumTwin first
    rwa [← source] at twin

/-- A listing has one line for each label and each data declaration of each module, in order, and
a symbol file has one entry.  The two tell the same, and every line names the first mention of its
address. -/
theorem listing_agrees_with_entries (messages : List Message) (events : List Event)
    (tokens : FileTokens) {version : UInt32} (recent : 2 ≤ version) :
    let recorder := (fresh messages).run events
    ∃ sections : List TwinSection,
      Listing.render (recorder.listing tokens) =
        String.join (sections.map TwinSection.text) ++ footing ∧
      List.Forall₂ (fun (module, index) part => part.title = moduleTitle tokens module index ∧
        ModuleTwins (mentions (history events)) module part.twins)
        recorder.modules.zipIdx sections ∧
      (SymbolFile.entries version recorder.modules).Perm
        ((sections.flatMap TwinSection.twins).map Twin.entry) := by
  intro recorder
  have good := (WellFormed.fresh messages).run events
  have tables := Tables.run messages events
  refine ⟨recorder.twinSections tokens version, recorder.render_listing tokens version, ?_, ?_⟩
  · refine List.forall₂_map_right_iff.2 (List.forall₂_same.2 fun (module, index) member => ?_)
    exact ⟨rfl, moduleTwins good tables recent (List.mem_zipIdx_iff_getElem?.1 member)⟩
  · rw [entries_twinSections]
    exact SymbolFile.entries_perm version recorder.modules

/-- A function that is 2³² octets long, in a module of its own: nine digits stand in brackets, and
the last eight behind the comma, although these are all zeros.  Its label has the place of the
function, which mentioned the address first. -/
theorem listing_agrees_with_entries_of_wide_function :
    let events : List Event :=
      [.startModule ⟨0⟩, .startFunction ⟨"a.s", 1⟩ 0x1000, .addLabel ⟨"b.s", 9⟩ 0x1000 "main",
        .endFunction 0x100001000, .endModule (some ⟨0⟩), .addLabel ⟨"a.s", 3⟩ 0x20 "x",
        .addData ⟨"b.s", 7⟩ (-16) 0x12345 .ascii]
    let recorder := (fresh []).run events
    let tokens : FileTokens := ⟨["a.s"]⟩
    (2 : UInt32) ≤ 2 ∧
      ∃ sections : List TwinSection,
        heading "module 0" ++
            "[00000020]         | \x1b[32mx:\x1b[39m ; a.s:3\n" ++
            "[FFFFFFF0]         | \x1b[33m.asc 12345\x1b[39m ; b.s:7\n" ++
            heading "a.s" ++
            "[00001000]         | \x1b[32mmain:\x1b[39m \x1b[36m[100000000]\x1b[39m ; a.s:1\n" ++
            footing =
          String.join (sections.map TwinSection.text) ++ footing ∧
        List.Forall₂ (fun (module, index) part => part.title = moduleTitle tokens module index ∧
          ModuleTwins (mentions (history events)) module part.twins)
          recorder.modules.zipIdx sections ∧
        [⟨0x20, "x"⟩, ⟨-16, ".asc:12345"⟩, ⟨0x1000, "main,00000000"⟩].Perm
          ((sections.flatMap TwinSection.twins).map Twin.entry) := by
  intro events recorder tokens
  have recent : (2 : UInt32) ≤ 2 := by decide
  obtain ⟨sections, printed, told, listed⟩ := listing_agrees_with_entries [] events tokens recent
  have entries : recorder.modules.flatMap (SymbolFile.moduleEntries 2) =
      [⟨0x20, "x"⟩, ⟨-16, ".asc:12345"⟩, ⟨0x1000, "main,00000000"⟩] := by decide +kernel
  have unsorted := (SymbolFile.entries_perm 2 recorder.modules).symm.trans listed
  refine ⟨recent, sections, Eq.trans ?_ printed, told, entries ▸ unsorted⟩
  decide +kernel

end Recorder

end DebugSymbols
