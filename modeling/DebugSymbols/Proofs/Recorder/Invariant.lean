import DebugSymbols.Proofs.Table.Keyed
import DebugSymbols.Proofs.Recorder.Operations
/-!
# What every reachable recorder satisfies

A well-formed module holds each symbol and each data entry once, has one record
for each address under that address, and has a record for every address that it
mentions.  In a
well-formed recorder the default module comes first, no two modules share a
token, the slot names the last function of a module with its size still 0, and
the path table holds exactly the files of the address records.  Every event
keeps this, so it holds after every run.
-/

namespace DebugSymbols

/-! ## Modules -/

namespace Module

theorem mem_addresses_of_record {module : Module} {address : Int64} {entry : AddressRecord}
    (member : (address, entry) ∈ module.records) : entry ∈ module.addresses :=
  List.mem_map_of_mem member

/-- The function at an index is the last one and has not been closed. -/
def OpenAt (module : Module) (index : Nat) : Prop :=
  ∃ settled address, module.functions = settled ++ [⟨address, 0⟩] ∧ settled.length = index

/-- No table of the module holds anything twice, every record stands under its own address, and
whatever is recorded has its address on record. -/
structure WellFormed (module : Module) : Prop where
  symbols_nodup : module.symbols.Nodup
  data_nodup : module.data.Nodup
  known_nodup : module.known.Nodup
  records_keyed : ∀ record ∈ module.records, record.2.address = record.1
  symbols_known : ∀ symbol ∈ module.symbols, symbol.address ∈ module.known
  data_known : ∀ entry ∈ module.data, entry.address ∈ module.known
  functions_known : ∀ span ∈ module.functions, span.address ∈ module.known

namespace WellFormed

theorem empty (token : Option FileToken) : WellFormed { token := token } where
  symbols_nodup := List.nodup_nil
  data_nodup := List.nodup_nil
  known_nodup := List.nodup_nil
  records_keyed := fun _ member => nomatch member
  symbols_known := fun _ member => nomatch member
  data_known := fun _ member => nomatch member
  functions_known := fun _ member => nomatch member

variable {module : Module}

/-- Records are found under their own addresses and nowhere else. -/
theorem recordOf?_eq_some_iff (good : module.WellFormed) {address : Int64}
    {entry : AddressRecord} :
    module.recordOf? address = some entry ↔
      entry ∈ module.addresses ∧ entry.address = address := by
  rw [recordOf?, Table.lookup_eq_some_iff_mem good.known_nodup]
  constructor
  · intro member
    exact ⟨mem_addresses_of_record member, good.records_keyed _ member⟩
  · rintro ⟨member, rfl⟩
    obtain ⟨⟨key, _⟩, standing, rfl⟩ := List.mem_map.1 member
    rwa [good.records_keyed _ standing]

theorem map_address_addresses (good : module.WellFormed) :
    module.addresses.map AddressRecord.address = module.known := by
  rw [addresses, List.map_map]
  exact List.map_congr_left good.records_keyed

theorem insert (good : module.WellFormed) {declaration : Declaration}
    (known : declaration.address ∈ module.known) : (module.insert declaration).WellFormed := by
  cases declaration with
  | label symbol =>
      exact
        { good with
          symbols_nodup := Table.nodup_appendNew good.symbols_nodup symbol
          symbols_known := by
            intro other member
            rcases Table.mem_appendNew.1 member with standing | rfl
            · exact good.symbols_known other standing
            · exact known }
  | datum entry =>
      exact
        { good with
          data_nodup := Table.nodup_appendNew good.data_nodup entry
          data_known := by
            intro other member
            rcases Table.mem_appendNew.1 member with standing | rfl
            · exact good.data_known other standing
            · exact known }

theorem openFunction (good : module.WellFormed) {address : Int64}
    (known : address ∈ module.known) : (module.openFunction address).WellFormed :=
  { good with
    functions_known := by
      intro span member
      rcases List.mem_append.1 member with standing | last
      · exact good.functions_known span standing
      · exact List.mem_singleton.1 last ▸ known }

/-- Closing a function changes its size only. -/
theorem closeFunction (good : module.WellFormed) (index : Nat) (address : Int64) :
    (module.closeFunction index address).WellFormed :=
  { good with
    functions_known := by
      intro span member
      obtain ⟨place, found⟩ := List.mem_iff_getElem?.1 member
      simp only [Module.closeFunction, List.getElem?_modify, Option.map_eq_map,
        Option.map_eq_some_iff] at found
      obtain ⟨earlier, standing, rfl⟩ := found
      have known := good.functions_known earlier (List.mem_of_getElem? standing)
      split
      · exact known
      · exact known }

theorem appendRecord (good : module.WellFormed) {address : Int64} {entry : AddressRecord}
    (own : entry.address = address) (fresh : address ∉ module.known) :
    (module.appendRecord address entry).WellFormed := by
  have grown : (module.appendRecord address entry).known = module.known ++ [address] :=
    List.map_append
  have kept : ∀ other ∈ module.known, other ∈ (module.appendRecord address entry).known :=
    fun other member => grown ▸ List.mem_append_left _ member
  exact
    { good with
      known_nodup := by
        rw [grown, ← Table.appendNew_of_not_mem fresh]
        exact Table.nodup_appendNew good.known_nodup address
      records_keyed := by
        intro record member
        rcases List.mem_append.1 member with standing | last
        · exact good.records_keyed record standing
        · exact List.mem_singleton.1 last ▸ own
      symbols_known := fun symbol member => kept _ (good.symbols_known symbol member)
      data_known := fun other member => kept _ (good.data_known other member)
      functions_known := fun span member => kept _ (good.functions_known span member) }

end WellFormed

end Module

/-! ## Recorders -/

namespace Recorder

def fresh (messages : List Message) : Recorder :=
  { messages := messages }

/-- The invariant of a recording. -/
structure WellFormed (recorder : Recorder) : Prop where
  current_lt : recorder.current < recorder.modules.length
  default_first : recorder.tokens[0]? = some none
  tokens_nodup : recorder.tokens.Nodup
  module_wellFormed : ∀ {index : Nat} {module : Module},
    recorder.modules[index]? = some module → module.WellFormed
  slot_open : ∀ {slot : FunctionSlot}, recorder.slot = some slot →
    ∃ module, recorder.modules[slot.module]? = some module ∧ module.OpenAt slot.function
  paths_nodup : recorder.paths.paths.Nodup
  file_lt_iff : ∀ {file : Nat}, file < recorder.paths.size ↔
    ∃ (index : Nat) (module : Module), recorder.modules[index]? = some module ∧
      ∃ entry ∈ module.addresses, entry.file = file

namespace WellFormed

/-- A recorder is well-formed while its default module is all that it has. -/
theorem of_blank {recorder : Recorder} (modules : recorder.modules = [{}])
    (paths : recorder.paths = {}) (current : recorder.current = 0)
    (slot : recorder.slot = none) : recorder.WellFormed where
  current_lt := by rw [current, modules]; exact Nat.zero_lt_one
  default_first := by rw [tokens, modules]; rfl
  tokens_nodup := by rw [tokens, modules]; exact List.nodup_singleton _
  module_wellFormed := by
    intro index module found
    rw [modules] at found
    rw [List.mem_singleton.1 (List.mem_of_getElem? found)]
    exact Module.WellFormed.empty none
  slot_open := by
    intro open_ same
    cases slot.symm.trans same
  paths_nodup := by rw [paths]; exact List.nodup_nil
  file_lt_iff := by
    intro file
    rw [modules, paths]
    constructor
    · intro impossible
      cases impossible
    · rintro ⟨index, module, found, entry, member, _⟩
      rw [List.mem_singleton.1 (List.mem_of_getElem? found)] at member
      cases member

variable {recorder : Recorder}

theorem fresh (messages : List Message) : (Recorder.fresh messages).WellFormed :=
  of_blank rfl rfl rfl rfl

theorem clear (recorder : Recorder) : recorder.clear.WellFormed :=
  of_blank rfl rfl rfl rfl

/-- The default module is the only one without a token. -/
theorem token_eq_none_iff (good : recorder.WellFormed) {index : Nat} {module : Module}
    (found : recorder.modules[index]? = some module) : module.token = none ↔ index = 0 := by
  have here : recorder.tokens[index]? = some module.token := by
    rw [getElem?_tokens, found, Option.map_some]
  constructor
  · intro unnamed
    obtain ⟨within, _⟩ := List.getElem?_eq_some_iff.1 here
    exact (List.getElem?_inj within good.tokens_nodup).1
      (here.trans (unnamed ▸ good.default_first.symm))
  · rintro rfl
    exact Option.some.inj (here.symm.trans good.default_first)

theorem getElem?_current (good : recorder.WellFormed) :
    recorder.modules[recorder.current]? = some recorder.currentModule := by
  rw [currentModule, List.getElem?_eq_getElem good.current_lt, Option.getD_some]

/-- Once recorded, an address is known to the current module. -/
theorem mem_known_addAddress (good : recorder.WellFormed) (place : Position) (address : Int64) :
    address ∈ (recorder.addAddress place address).currentModule.known := by
  by_cases known : address ∈ recorder.currentModule.known
  · rwa [addAddress_of_known _ _ _ known]
  · rw [currentModule_addAddress_of_fresh _ _ _ good.current_lt known]
    exact List.mem_map_of_mem (List.mem_append_right _ List.mem_cons_self)

theorem current_wellFormed (good : recorder.WellFormed) : recorder.currentModule.WellFormed :=
  good.module_wellFormed good.getElem?_current

theorem report (good : recorder.WellFormed) (messages : List Message) :
    (recorder.report messages).WellFormed :=
  { good with }

/-! ### Changing one module -/

/-- A module may be changed if it keeps its token, as long as the slot names an open function and
the paths are those of the records afterwards. -/
theorem change (good : recorder.WellFormed) (index : Nat) (change : Module → Module)
    (slot : Option FunctionSlot) (paths : PathTable)
    (token : ∀ module, (change module).token = module.token)
    (changed : ∀ {module}, recorder.modules[index]? = some module → (change module).WellFormed)
    (slot_open : ∀ {named}, slot = some named → ∃ module,
      (recorder.modifyModule index change).modules[named.module]? = some module ∧
        module.OpenAt named.function)
    (paths_nodup : paths.paths.Nodup)
    (file_lt_iff : ∀ {file}, file < paths.size ↔ ∃ (place : Nat) (module : Module),
      (recorder.modifyModule index change).modules[place]? = some module ∧
        ∃ entry ∈ module.addresses, entry.file = file) :
    ({ recorder.modifyModule index change with slot := slot, paths := paths } :
      Recorder).WellFormed where
  current_lt := by
    have within := good.current_lt
    rwa [← List.length_modify] at within
  default_first := (tokens_modifyModule recorder index change token).symm ▸ good.default_first
  tokens_nodup := (tokens_modifyModule recorder index change token).symm ▸ good.tokens_nodup
  module_wellFormed := by
    intro place module found
    rw [getElem?_modifyModule] at found
    obtain ⟨earlier, standing, rfl⟩ := Option.map_eq_some_iff.1 found
    by_cases here : index = place
    · subst here
      rw [if_pos rfl]
      exact changed standing
    · rw [if_neg here]
      exact good.module_wellFormed standing
  slot_open := slot_open
  paths_nodup := paths_nodup
  file_lt_iff := file_lt_iff

/-- A change that keeps the functions keeps the open one. -/
theorem slot_open_modifyModule (good : recorder.WellFormed) (index : Nat)
    (change : Module → Module) (functions : ∀ module, (change module).functions = module.functions)
    {named : FunctionSlot} (taken : recorder.slot = some named) :
    ∃ module, (recorder.modifyModule index change).modules[named.module]? = some module ∧
      module.OpenAt named.function := by
  obtain ⟨module, found, settled, address, last, place⟩ := good.slot_open taken
  refine ⟨if index = named.module then change module else module, ?_, settled, address, ?_, place⟩
  · rw [getElem?_modifyModule, found, Option.map_some]
  · split
    · exact (functions module).trans last
    · exact last

/-- A change that keeps the address records needs no other paths. -/
theorem file_lt_modifyModule_iff (good : recorder.WellFormed) (index : Nat)
    (change : Module → Module) (records : ∀ module, (change module).records = module.records)
    {file : Nat} :
    file < recorder.paths.size ↔ ∃ (place : Nat) (module : Module),
      (recorder.modifyModule index change).modules[place]? = some module ∧
        ∃ entry ∈ module.addresses, entry.file = file := by
  have kept : ∀ place module, (if index = place then change module else module).addresses =
      module.addresses := by
    intro place module
    split
    · exact congrArg (List.map Prod.snd) (records module)
    · rfl
  refine good.file_lt_iff.trans ⟨?_, ?_⟩
  · rintro ⟨place, module, found, entry, member, same⟩
    refine ⟨place, if index = place then change module else module, ?_, entry, ?_, same⟩
    · rw [getElem?_modifyModule, found, Option.map_some]
    · rwa [kept]
  · rintro ⟨place, module, found, entry, member, same⟩
    rw [getElem?_modifyModule] at found
    obtain ⟨earlier, standing, rfl⟩ := Option.map_eq_some_iff.1 found
    rw [kept] at member
    exact ⟨place, earlier, standing, entry, member, same⟩

/-- A new record names a path of the table, and no other path is added. -/
theorem file_lt_insert_iff (good : recorder.WellFormed) (place : Position) (address : Int64)
    {file : Nat} :
    file < (recorder.paths.insert place.file).size ↔ ∃ (index : Nat) (module : Module),
      (recorder.modifyCurrent
        (·.appendRecord address (recorder.recordFor place address))).modules[index]? =
          some module ∧
        ∃ entry ∈ module.addresses, entry.file = file := by
  let added := recorder.recordFor place address
  have grown : ∀ module : Module,
      (module.appendRecord address added).addresses = module.addresses ++ [added] :=
    fun _ => List.map_append
  rw [PathTable.lt_size_insert, good.file_lt_iff]
  constructor
  · rintro (⟨index, module, found, entry, member, same⟩ | rfl)
    · refine ⟨index,
        if recorder.current = index then module.appendRecord address added else module, ?_, entry,
        ?_, same⟩
      · rw [modifyCurrent, getElem?_modifyModule, found, Option.map_some]
      · split
        · rw [grown]
          exact List.mem_append_left _ member
        · exact member
    · refine ⟨recorder.current, recorder.currentModule.appendRecord address added, ?_, added, ?_,
        rfl⟩
      · rw [modifyCurrent, getElem?_modifyModule, good.getElem?_current, Option.map_some,
          if_pos rfl]
      · rw [grown]
        exact List.mem_append_right _ List.mem_cons_self
  · rintro ⟨index, module, found, entry, member, same⟩
    rw [modifyCurrent, getElem?_modifyModule] at found
    obtain ⟨earlier, standing, rfl⟩ := Option.map_eq_some_iff.1 found
    split at member
    · rw [grown] at member
      rcases List.mem_append.1 member with before | last
      · exact Or.inl ⟨index, earlier, standing, entry, before, same⟩
      · exact Or.inr (same ▸ congrArg AddressRecord.file (List.mem_singleton.1 last))
    · exact Or.inl ⟨index, earlier, standing, entry, member, same⟩

/-! ### Recording -/

theorem addAddress (good : recorder.WellFormed) (place : Position) (address : Int64) :
    (recorder.addAddress place address).WellFormed := by
  by_cases known : address ∈ recorder.currentModule.known
  · rwa [addAddress_of_known _ _ _ known]
  · rw [addAddress_of_fresh _ _ _ known]
    let append : Module → Module := (·.appendRecord address (recorder.recordFor place address))
    refine good.change recorder.current append recorder.slot (recorder.paths.insert place.file)
      (fun _ => rfl) ?_ (good.slot_open_modifyModule recorder.current append fun _ => rfl)
      (Table.nodup_appendNew good.paths_nodup place.file) (good.file_lt_insert_iff place address)
    intro module standing
    cases good.getElem?_current.symm.trans standing
    exact good.current_wellFormed.appendRecord rfl known

/-- Symbols and data are added to a module without touching its functions and records. -/
theorem modifyCurrent (good : recorder.WellFormed) (change : Module → Module)
    (token : ∀ module, (change module).token = module.token)
    (functions : ∀ module, (change module).functions = module.functions)
    (records : ∀ module, (change module).records = module.records)
    (changed : (change recorder.currentModule).WellFormed) :
    (recorder.modifyCurrent change).WellFormed := by
  refine good.change recorder.current change recorder.slot recorder.paths token ?_
    (good.slot_open_modifyModule recorder.current change functions) good.paths_nodup
    (good.file_lt_modifyModule_iff recorder.current change records)
  intro module found
  cases good.getElem?_current.symm.trans found
  exact changed

theorem address_mem_known_of_has (good : recorder.WellFormed) {declaration : Declaration}
    (listed : recorder.currentModule.has declaration = true) :
    declaration.address ∈ recorder.currentModule.known := by
  cases declaration with
  | label symbol => exact good.current_wellFormed.symbols_known _ (of_decide_eq_true listed)
  | datum entry => exact good.current_wellFormed.data_known _ (of_decide_eq_true listed)

/-- What is listed already loses nothing by the short cut: its address is on record. -/
theorem declare_of_enabled (good : recorder.WellFormed) (enabled : recorder.enabled = true)
    (place : Position) (declaration : Declaration) :
    recorder.declare place declaration =
      (recorder.addAddress place declaration.address).modifyCurrent (·.insert declaration) := by
  cases listed : recorder.currentModule.has declaration with
  | false => exact declare_of_not_has _ _ _ enabled listed
  | true =>
      rw [declare_of_has _ _ _ listed,
        addAddress_of_known _ _ _ (good.address_mem_known_of_has listed), modifyCurrent_eq_self]
      exact Module.insert_of_has listed

theorem declare (good : recorder.WellFormed) (place : Position) (declaration : Declaration) :
    (recorder.declare place declaration).WellFormed := by
  cases enabled : recorder.enabled with
  | false => rwa [declare_of_disabled _ _ _ enabled]
  | true =>
      rw [good.declare_of_enabled enabled]
      have located := good.addAddress place declaration.address
      have known := good.mem_known_addAddress place declaration.address
      exact located.modifyCurrent (·.insert declaration) (Module.token_insert · declaration)
        (Module.functions_insert · declaration) (Module.records_insert · declaration)
        (located.current_wellFormed.insert known)

/-! ### Functions -/

/-- Closing the function in the slot empties the slot. -/
theorem endFunction (good : recorder.WellFormed) (address : Int64) :
    (recorder.endFunction address).2.WellFormed := by
  cases taken : recorder.slot with
  | none =>
      rw [endFunction_of_none _ _ taken]
      exact good.report _
  | some slot =>
      rw [endFunction_of_some _ _ taken]
      let close : Module → Module := (·.closeFunction slot.function address)
      refine good.change slot.module close none recorder.paths (fun _ => rfl) ?_ ?_
        good.paths_nodup (good.file_lt_modifyModule_iff slot.module close fun _ => rfl)
      · intro module found
        exact (good.module_wellFormed found).closeFunction slot.function address
      · intro named impossible
        cases impossible

theorem closeOpen (good : recorder.WellFormed) (address : Int64) :
    (recorder.closeOpen address).WellFormed := by
  cases taken : recorder.slot with
  | none => rwa [closeOpen_of_none _ _ taken]
  | some slot =>
      rw [closeOpen_of_some _ _ taken]
      exact good.endFunction address

/-- A function is opened behind the others, so the slot names the last one. -/
theorem openHere (good : recorder.WellFormed) {address : Int64}
    (known : address ∈ recorder.currentModule.known) :
    (recorder.openHere address).WellFormed := by
  have here := good.getElem?_current
  let open_ : Module → Module := (·.openFunction address)
  refine good.change recorder.current open_
    (some ⟨recorder.current, recorder.currentModule.functions.length⟩) recorder.paths
    (fun _ => rfl) ?_ ?_ good.paths_nodup
    (good.file_lt_modifyModule_iff recorder.current open_ fun _ => rfl)
  · intro module found
    cases here.symm.trans found
    exact good.current_wellFormed.openFunction known
  · rintro named ⟨⟩
    refine ⟨recorder.currentModule.openFunction address, ?_, _, address, rfl, rfl⟩
    rw [getElem?_modifyModule, here, Option.map_some, if_pos rfl]

theorem startFunction (good : recorder.WellFormed) (place : Position) (address : Int64) :
    (recorder.startFunction place address).WellFormed := by
  have closed := good.closeOpen address
  rw [startFunction_eq _ _ _ closed.current_lt]
  exact (closed.addAddress place address).openHere (closed.mem_known_addAddress place address)

/-! ### Modules -/

/-- A new module comes behind the others, so that what stands at an index stays there. -/
theorem startModule (good : recorder.WellFormed) (token : FileToken) :
    (recorder.startModule token).WellFormed := by
  have tokens := recorder.tokens_startModule token
  by_cases started : some token ∈ recorder.tokens
  · rw [startModule_of_mem _ started]
    exact { good with current_lt := recorder.moduleIndex_lt_iff.2 started }
  · rw [startModule_of_not_mem _ started] at tokens ⊢
    -- What stood at an index stands there still, and whatever else stands anywhere is new.
    have kept : ∀ {index : Nat} {module : Module}, recorder.modules[index]? = some module →
        (recorder.modules ++ [{ token := some token }])[index]? = some module := by
      intro index module found
      rw [List.getElem?_append_left (List.getElem?_eq_some_iff.1 found).1, found]
    have standing_or_new : ∀ {index : Nat} {module : Module},
        (recorder.modules ++ [{ token := some token }])[index]? = some module →
          recorder.modules[index]? = some module ∨ module = { token := some token } := by
      intro index module found
      rw [List.getElem?_append] at found
      split at found
      · exact Or.inl found
      · exact Or.inr (List.mem_singleton.1 (List.mem_of_getElem? found))
    refine ⟨?_, ?_, ?_, ?_, ?_, good.paths_nodup, ?_⟩
    · rw [List.length_append]
      exact Nat.lt_succ_self _
    · rw [tokens]
      exact Table.getElem?_appendNew good.default_first
    · rw [tokens]
      exact Table.nodup_appendNew good.tokens_nodup _
    · intro index module found
      rcases standing_or_new found with standing | rfl
      · exact good.module_wellFormed standing
      · exact Module.WellFormed.empty _
    · intro slot taken
      obtain ⟨module, found, last⟩ := good.slot_open taken
      exact ⟨module, kept found, last⟩
    · intro file
      refine good.file_lt_iff.trans ⟨?_, ?_⟩
      · rintro ⟨index, module, found, used⟩
        exact ⟨index, module, kept found, used⟩
      · rintro ⟨index, module, found, entry, member, same⟩
        rcases standing_or_new found with standing | rfl
        · exact ⟨index, module, standing, entry, member, same⟩
        · cases member

/-- The default module is there to go back to. -/
theorem leave (good : recorder.WellFormed) : recorder.leave.WellFormed :=
  { good with
    current_lt := Nat.zero_lt_of_lt good.current_lt
    slot_open := fun impossible => nomatch impossible }

theorem endModule (good : recorder.WellFormed) (token : Option FileToken) :
    (recorder.endModule token).2.WellFormed := by
  obtain ⟨messages, same⟩ := recorder.endModule_snd token
  rw [same]
  split
  · exact good.leave.report messages
  · exact good.report messages

theorem save (good : recorder.WellFormed) (place : Option Sink) :
    (recorder.save place).2.WellFormed := by
  rw [save_snd]
  exact good.report _

/-! ### Runs -/

theorem step (good : recorder.WellFormed) (event : Event) :
    (recorder.step event).2.WellFormed := by
  cases event with
  | clear => exact clear recorder
  | configure settings => exact { good with }
  | setEnabled enabled => exact { good with }
  | setOutput output => exact { good with }
  | setVersion version => exact { good with }
  | startModule token => exact good.startModule token
  | endModule token => exact good.endModule token
  | addLabel place address name => exact good.declare place (.label ⟨address, name⟩)
  | addData place address size kind => exact good.declare place (.datum ⟨address, size, kind⟩)
  | addAddress place address => exact good.addAddress place address
  | startFunction place address => exact good.startFunction place address
  | endFunction address => exact good.endFunction address
  | save place => exact good.save place

theorem run (good : recorder.WellFormed) (events : List Event) :
    (recorder.run events).WellFormed := by
  induction events generalizing recorder with
  | nil => exact good
  | cons event rest ih => exact ih (good.step event)

/-- The source of a known address can always be told. -/
theorem isSome_sourceOf? (good : recorder.WellFormed) {index : Nat} {module : Module}
    (found : recorder.modules[index]? = some module) {address : Int64}
    (known : address ∈ module.known) : (recorder.sourceOf? index address).isSome = true := by
  have whole := good.module_wellFormed found
  rw [← whole.map_address_addresses] at known
  obtain ⟨entry, member, same⟩ := List.mem_map.1 known
  have record := whole.recordOf?_eq_some_iff.2 ⟨member, same⟩
  have within : entry.file < recorder.paths.size :=
    good.file_lt_iff.2 ⟨index, module, found, entry, member, rfl⟩
  have path : recorder.paths.path? entry.file = some (recorder.paths.paths[entry.file]) :=
    List.getElem?_eq_getElem within
  rw [sourceOf?, found, Option.bind_some, record, Option.bind_some, path]
  rfl

end WellFormed

/-- Whatever has been asked of a recorder, its tables, its current module, its slot and its paths
fit together. -/
theorem reachable_wellFormed (messages : List Message) (events : List Event) :
    ((fresh messages).run events).WellFormed ∧
      ∀ (index : Nat) (module : Module),
        ((fresh messages).run events).modules[index]? = some module →
          (module.token = none ↔ index = 0) ∧
          (∀ address entry, module.recordOf? address = some entry ↔
            entry ∈ module.addresses ∧ entry.address = address) ∧
          ∀ address ∈ module.known,
            (((fresh messages).run events).sourceOf? index address).isSome = true := by
  have good := (WellFormed.fresh messages).run events
  refine ⟨good, fun index module found => ⟨good.token_eq_none_iff found, ?_, ?_⟩⟩
  · intro address entry
    exact (good.module_wellFormed found).recordOf?_eq_some_iff
  · intro address known
    exact good.isSome_sourceOf? found known

end Recorder

end DebugSymbols
