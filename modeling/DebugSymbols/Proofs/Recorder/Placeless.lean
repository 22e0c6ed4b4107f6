import DebugSymbols.Proofs.Recorder.Operations
import DebugSymbols.Proofs.SymbolFile.Canonical
/-!
# Recording without places

Where an event takes place is told by the address records and by the path table
and nowhere else.  Without them a recorder goes through a run just as if all
events had taken place nowhere, so two runs that differ in places only end in
recorders that differ in places only.
-/

namespace DebugSymbols

/-! ## Leaving places out -/

/-- The record of an address without where it was seen. -/
def AddressRecord.placeless (entry : AddressRecord) : AddressRecord :=
  ⟨entry.address, 0, 0⟩

def Module.placeless (module : Module) : Module :=
  { module with records := module.records.map (Prod.map id AddressRecord.placeless) }

def Recorder.placeless (recorder : Recorder) : Recorder :=
  { recorder with modules := recorder.modules.map Module.placeless, paths := {} }

def Event.placeless : Event → Event
  | .addLabel _ address name => .addLabel {} address name
  | .addData _ address size kind => .addData {} address size kind
  | .addAddress _ address => .addAddress {} address
  | .startFunction _ address => .startFunction {} address
  | event => event

namespace Module

@[simp]
theorem placeless_placeless (module : Module) : module.placeless.placeless = module.placeless := by
  simp [placeless, AddressRecord.placeless]

@[simp]
theorem known_placeless (module : Module) : module.placeless.known = module.known := by
  simp [placeless, known]

theorem has_placeless (module : Module) (declaration : Declaration) :
    module.placeless.has declaration = module.has declaration := by
  cases declaration with
  | label symbol => rfl
  | datum entry => rfl

theorem insert_placeless (module : Module) (declaration : Declaration) :
    (module.insert declaration).placeless = module.placeless.insert declaration := by
  cases declaration with
  | label symbol => rfl
  | datum entry => rfl

end Module

namespace Recorder

variable (recorder : Recorder)

@[simp]
theorem placeless_placeless : recorder.placeless.placeless = recorder.placeless := by
  simp [placeless]

@[simp]
theorem tokens_placeless : recorder.placeless.tokens = recorder.tokens := by
  simp [placeless, tokens, Module.placeless]

theorem moduleIndex_placeless (token : FileToken) :
    recorder.placeless.moduleIndex token = recorder.moduleIndex token := by
  simp only [moduleIndex, placeless, List.findIdx_map]
  rfl

theorem currentModule_placeless :
    recorder.placeless.currentModule = recorder.currentModule.placeless := by
  simp only [currentModule, placeless, List.getElem?_map]
  cases recorder.modules[recorder.current]? with
  | none => rfl
  | some module => rfl

/-- A change that treats all records alike may be made with or without places. -/
theorem placeless_modifyModule (index : Nat) (change placelessChange : Module → Module)
    (alike : ∀ module, (change module).placeless = placelessChange module.placeless) :
    (recorder.modifyModule index change).placeless =
      recorder.placeless.modifyModule index placelessChange := by
  have modules : (recorder.modules.modify index change).map Module.placeless =
      (recorder.modules.map Module.placeless).modify index placelessChange := by
    apply List.ext_getElem?
    intro place
    simp only [List.getElem?_map, List.getElem?_modify, Option.map_eq_map, Option.map_map]
    congr 1
    funext module
    by_cases here : index = place
    · simp [here, alike]
    · simp [here]
  simp only [modifyModule, placeless, modules]

theorem placeless_modifyCurrent (change placelessChange : Module → Module)
    (alike : ∀ module, (change module).placeless = placelessChange module.placeless) :
    (recorder.modifyCurrent change).placeless =
      recorder.placeless.modifyCurrent placelessChange :=
  recorder.placeless_modifyModule recorder.current change placelessChange alike

/-! ## Switching modules -/

theorem placeless_startModule (token : FileToken) :
    (recorder.startModule token).placeless = recorder.placeless.startModule token := by
  by_cases started : some token ∈ recorder.tokens
  · have known : some token ∈ recorder.placeless.tokens := by rwa [tokens_placeless]
    rw [startModule_of_mem _ started, startModule_of_mem _ known, moduleIndex_placeless]
    rfl
  · have unknown : some token ∉ recorder.placeless.tokens := by rwa [tokens_placeless]
    rw [startModule_of_not_mem _ started, startModule_of_not_mem _ unknown]
    simp [placeless, Module.placeless]

theorem placeless_endModule (token : Option FileToken) :
    (recorder.endModule token).2.placeless = (recorder.placeless.endModule token).2 := by
  have named : recorder.placeless.currentModule.token = recorder.currentModule.token := by
    rw [currentModule_placeless]
    rfl
  have current : recorder.placeless.current = recorder.current := rfl
  have slot : recorder.placeless.slot = recorder.slot := rfl
  simp only [endModule, named, current, slot]
  split
  · rfl
  · split
    · rfl
    · split
      · rfl
      · rfl

/-! ## Recording -/

/-- An address gets a record or has one, wherever it is recorded. -/
theorem placeless_addAddress (place other : Position) (address : Int64) :
    (recorder.addAddress place address).placeless =
      (recorder.placeless.addAddress other address).placeless := by
  have same : recorder.placeless.currentModule.known = recorder.currentModule.known := by
    rw [currentModule_placeless, Module.known_placeless]
  by_cases known : address ∈ recorder.currentModule.known
  · rw [addAddress_of_known _ _ _ known, addAddress_of_known _ _ _ (same ▸ known),
      placeless_placeless]
  · let append : Module → Module := (·.appendRecord address ⟨address, 0, 0⟩)
    have alike : ∀ entry : AddressRecord, entry.address = address → ∀ module : Module,
        (module.appendRecord address entry).placeless = append module.placeless := by
      intro entry own module
      simp [append, Module.placeless, Module.appendRecord, AddressRecord.placeless, own]
    have first := recorder.placeless_modifyCurrent _ append
      (alike (recorder.recordFor place address) rfl)
    have second := recorder.placeless.placeless_modifyCurrent _ append
      (alike (recorder.placeless.recordFor other address) rfl)
    rw [placeless_placeless] at second
    rw [addAddress_of_fresh _ _ _ known, addAddress_of_fresh _ _ _ (same ▸ known)]
    exact first.trans second.symm

theorem placeless_declare (place other : Position) (declaration : Declaration) :
    (recorder.declare place declaration).placeless =
      (recorder.placeless.declare other declaration).placeless := by
  have listed : recorder.placeless.currentModule.has declaration =
      recorder.currentModule.has declaration := by
    rw [currentModule_placeless, Module.has_placeless]
  have enabled : recorder.placeless.enabled = recorder.enabled := rfl
  let insert : Module → Module := (·.insert declaration)
  let address := declaration.address
  simp only [declare, listed, enabled]
  split
  · exact recorder.placeless_placeless.symm
  · calc
      ((recorder.addAddress place address).modifyCurrent insert).placeless =
          (recorder.addAddress place address).placeless.modifyCurrent insert :=
        placeless_modifyCurrent _ insert insert (Module.insert_placeless · declaration)
      _ = (recorder.placeless.addAddress other address).placeless.modifyCurrent insert := by
        rw [recorder.placeless_addAddress place other address]
      _ = ((recorder.placeless.addAddress other address).modifyCurrent insert).placeless :=
        (placeless_modifyCurrent _ insert insert (Module.insert_placeless · declaration)).symm

/-! ## Functions -/

theorem placeless_endFunction (address : Int64) :
    (recorder.endFunction address).2.placeless = (recorder.placeless.endFunction address).2 := by
  cases taken : recorder.slot with
  | none =>
      have free : recorder.placeless.slot = none := taken
      rw [endFunction_of_none _ _ taken, endFunction_of_none _ _ free]
      rfl
  | some slot =>
      have busy : recorder.placeless.slot = some slot := taken
      rw [endFunction_of_some _ _ taken, endFunction_of_some _ _ busy]
      let close : Module → Module := (·.closeFunction slot.function address)
      have closed := recorder.placeless_modifyModule slot.module close close fun _ => rfl
      exact congrArg (fun state => { state with slot := none }) closed

theorem placeless_closeOpen (address : Int64) :
    (recorder.closeOpen address).placeless = recorder.placeless.closeOpen address := by
  have slot : recorder.placeless.slot = recorder.slot := rfl
  rw [closeOpen, closeOpen, slot]
  split
  · exact recorder.placeless_endFunction address
  · rfl

theorem placeless_openHere (address : Int64) :
    (recorder.openHere address).placeless = recorder.placeless.openHere address := by
  let open_ : Module → Module := (·.openFunction address)
  have opened := recorder.placeless_modifyCurrent open_ open_ fun _ => rfl
  have functions : recorder.placeless.currentModule.functions =
      recorder.currentModule.functions := by
    rw [currentModule_placeless]
    rfl
  rw [openHere, openHere, ← opened, functions]
  rfl

theorem placeless_startFunction (place other : Position) (address : Int64) :
    (recorder.startFunction place address).placeless =
      (recorder.placeless.startFunction other address).placeless := by
  have opened : ((recorder.closeOpen address).openHere address).placeless =
      (recorder.placeless.closeOpen address).openHere address := by
    rw [placeless_openHere, placeless_closeOpen]
  calc
    (recorder.startFunction place address).placeless =
        (((recorder.closeOpen address).openHere address).addAddress place address).placeless := rfl
    _ = (((recorder.placeless.closeOpen address).openHere address).addAddress other
          address).placeless := by rw [placeless_addAddress _ place other, opened]
    _ = (recorder.placeless.startFunction other address).placeless := rfl

/-! ## Saving -/

/-- Places are not exported. -/
theorem entries_map_placeless (version : UInt32) (modules : List Module) :
    SymbolFile.entries version (modules.map Module.placeless) =
      SymbolFile.entries version modules := by
  apply SymbolFile.entries_eq_of_forall₂
  rw [List.forall₂_map_left_iff, List.forall₂_same]
  intro module _
  exact ⟨.refl _, .refl _, fun _ => rfl⟩

theorem save_placeless (place : Option Sink) :
    (recorder.placeless.save place).1 = (recorder.save place).1 := by
  have entries : recorder.placeless.entries = recorder.entries :=
    entries_map_placeless recorder.version recorder.modules
  have output : recorder.placeless.output = recorder.output := rfl
  simp only [save, entries, output]
  split
  · rfl
  · rfl
  · split
    · rfl
    · rfl

/-! ## Runs -/

/-- Without places, an event does what it would do nowhere. -/
theorem placeless_step (event : Event) :
    (recorder.step event).2.placeless = (recorder.placeless.step event.placeless).2.placeless := by
  -- What does not mention a place commutes with leaving places out, which may be done twice.
  have of_eq : ∀ {after other : Recorder}, after.placeless = other →
      after.placeless = other.placeless := by
    rintro after _ rfl
    exact after.placeless_placeless.symm
  cases event with
  | clear => rfl
  | configure settings => exact of_eq rfl
  | setEnabled enabled => exact of_eq rfl
  | setOutput output => exact of_eq rfl
  | setVersion version => exact of_eq rfl
  | startModule token => exact of_eq (recorder.placeless_startModule token)
  | endModule token => exact of_eq (recorder.placeless_endModule token)
  | addLabel place address name =>
      exact recorder.placeless_declare place {} (.label ⟨address, name⟩)
  | addData place address size kind =>
      exact recorder.placeless_declare place {} (.datum ⟨address, size, kind⟩)
  | addAddress place address => exact recorder.placeless_addAddress place {} address
  | startFunction place address => exact recorder.placeless_startFunction place {} address
  | endFunction address => exact of_eq (recorder.placeless_endFunction address)
  | save place =>
      change (recorder.save place).2.placeless = (recorder.placeless.save place).2.placeless
      rw [save_snd, save_snd, save_placeless]
      exact of_eq rfl

/-- Two runs that differ in places only end in recorders that differ in places only. -/
theorem placeless_run_congr {first second : Recorder} (same : first.placeless = second.placeless)
    {events others : List Event}
    (alike : events.map Event.placeless = others.map Event.placeless) :
    (first.run events).placeless = (second.run others).placeless := by
  induction events generalizing first second others with
  | nil =>
      cases others with
      | nil => exact same
      | cons other later => cases alike
  | cons event rest ih =>
      cases others with
      | nil => cases alike
      | cons other later =>
          obtain ⟨here, further⟩ := List.cons.inj alike
          have step : (first.step event).2.placeless = (second.step other).2.placeless := by
            rw [placeless_step first, placeless_step second, same, here]
          exact ih step further

end Recorder

end DebugSymbols
