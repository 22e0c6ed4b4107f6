import DebugSymbols.Recorder.Event
/-!
# What the operations do to a recorder

Changing one module leaves the others and all tokens alone.  Each recording
operation comes down to such changes, and a function may as well be opened
after its address has been recorded.
-/

namespace DebugSymbols

def SaveResult.messages (result : SaveResult) : List Message :=
  result.fault.toList.map fun fault => ⟨.error, fault.text⟩

namespace Recorder

def tokens (recorder : Recorder) : List (Option FileToken) :=
  recorder.modules.map Module.token

variable (recorder : Recorder)

theorem getElem?_modifyModule (index place : Nat) (change : Module → Module) :
    (recorder.modifyModule index change).modules[place]? =
      (recorder.modules[place]?).map fun module =>
        if index = place then change module else module := by
  rw [modifyModule, List.getElem?_modify, Option.map_eq_map]

theorem getElem?_tokens (index : Nat) :
    recorder.tokens[index]? = recorder.modules[index]?.map Module.token :=
  List.getElem?_map

@[simp]
theorem length_tokens : recorder.tokens.length = recorder.modules.length :=
  List.length_map _

theorem tokens_modifyModule (index : Nat) (change : Module → Module)
    (kept : ∀ module, (change module).token = module.token) :
    (recorder.modifyModule index change).tokens = recorder.tokens := by
  apply List.ext_getElem?
  intro place
  rw [getElem?_tokens, getElem?_tokens, getElem?_modifyModule, Option.map_map]
  congr 1
  funext module
  by_cases here : index = place
  · rw [Function.comp_apply, if_pos here, kept]
  · rw [Function.comp_apply, if_neg here]

theorem currentModule_modifyCurrent (change : Module → Module)
    (within : recorder.current < recorder.modules.length) :
    (recorder.modifyCurrent change).currentModule = change recorder.currentModule := by
  have found := List.getElem?_eq_getElem within
  have changed := recorder.getElem?_modifyModule recorder.current recorder.current change
  rw [found, Option.map_some, if_pos rfl] at changed
  rw [currentModule, currentModule, found, Option.getD_some]
  exact congrArg (Option.getD · {}) changed

/-- A change that would change nothing. -/
theorem modifyCurrent_eq_self {change : Module → Module}
    (same : change recorder.currentModule = recorder.currentModule) :
    recorder.modifyCurrent change = recorder := by
  have unchanged : recorder.modules.modify recorder.current change = recorder.modules := by
    apply List.ext_getElem?
    intro place
    rw [List.getElem?_modify, Option.map_eq_map]
    cases found : recorder.modules[place]? with
    | none => rfl
    | some module =>
        by_cases here : recorder.current = place
        · subst here
          rw [currentModule, found, Option.getD_some] at same
          rw [Option.map_some, if_pos rfl, same]
        · rw [Option.map_some, if_neg here]
  rw [modifyCurrent, modifyModule, unchanged]

/-! ## Switching modules -/

@[simp]
theorem report_nil : recorder.report [] = recorder := by
  rw [report, List.append_nil]

theorem moduleIndex_lt_iff {token : FileToken} :
    recorder.moduleIndex token < recorder.modules.length ↔ some token ∈ recorder.tokens := by
  rw [moduleIndex, List.findIdx_lt_length, tokens, List.mem_map]
  simp only [beq_iff_eq]

theorem getElem?_tokens_moduleIndex {token : FileToken} (started : some token ∈ recorder.tokens) :
    recorder.tokens[recorder.moduleIndex token]? = some (some token) := by
  have within := recorder.moduleIndex_lt_iff.2 started
  have matched : recorder.modules[recorder.moduleIndex token].token = some token :=
    beq_iff_eq.1 (List.findIdx_getElem (w := within))
  rw [getElem?_tokens, List.getElem?_eq_getElem within, Option.map_some, matched]

theorem startModule_of_mem {token : FileToken} (started : some token ∈ recorder.tokens) :
    recorder.startModule token = { recorder with current := recorder.moduleIndex token } :=
  if_pos (recorder.moduleIndex_lt_iff.2 started)

/-- The module of a new token comes behind the others. -/
theorem startModule_of_not_mem {token : FileToken} (fresh : some token ∉ recorder.tokens) :
    recorder.startModule token =
      { recorder with
        modules := recorder.modules ++ [{ token := some token }]
        current := recorder.modules.length } := by
  have outside : ¬recorder.moduleIndex token < recorder.modules.length :=
    fun within => fresh (recorder.moduleIndex_lt_iff.1 within)
  have last : recorder.moduleIndex token = recorder.modules.length :=
    Nat.le_antisymm List.findIdx_le_length (Nat.le_of_not_lt outside)
  rw [startModule, if_neg outside, last]

theorem tokens_startModule (token : FileToken) :
    (recorder.startModule token).tokens = Table.appendNew recorder.tokens (some token) := by
  by_cases started : some token ∈ recorder.tokens
  · rw [startModule_of_mem _ started, Table.appendNew_of_mem started]
    rfl
  · rw [startModule_of_not_mem _ started, Table.appendNew_of_not_mem started]
    exact List.map_append

@[simp]
theorem slot_startModule (token : FileToken) :
    (recorder.startModule token).slot = recorder.slot := by
  simp only [startModule]
  split
  · rfl
  · rfl

@[simp]
theorem messages_startModule (token : FileToken) :
    (recorder.startModule token).messages = recorder.messages := by
  simp only [startModule]
  split
  · rfl
  · rfl

def leave (recorder : Recorder) : Recorder :=
  { recorder with current := 0, slot := none }

theorem endModule_of_ne {token : Option FileToken} (other : token ≠ recorder.currentModule.token) :
    recorder.endModule token = recorder.refuse .moduleMismatch :=
  if_pos other.symm

theorem endModule_of_default (default : recorder.current = 0) :
    recorder.endModule recorder.currentModule.token = recorder.refuse .noModuleOpened := by
  rw [endModule, if_neg (not_not_intro rfl), if_pos default]

theorem endModule_of_open {slot : FunctionSlot} (opened : recorder.current ≠ 0)
    (taken : recorder.slot = some slot) :
    recorder.endModule recorder.currentModule.token =
      recorder.leave.refuse .moduleClosedInFunction := by
  rw [endModule, if_neg (not_not_intro rfl), if_neg opened, taken]
  rfl

theorem endModule_of_closed (opened : recorder.current ≠ 0) (free : recorder.slot = none) :
    recorder.endModule recorder.currentModule.token = (none, recorder.leave) := by
  rw [endModule, if_neg (not_not_intro rfl), if_neg opened, free]
  rfl

/-- Unless it leaves the current module, an attempt to close one is at most reported. -/
theorem endModule_snd (token : Option FileToken) :
    ∃ messages, (recorder.endModule token).2 =
      (if token = recorder.currentModule.token ∧ recorder.current ≠ 0 then recorder.leave
        else recorder).report messages := by
  by_cases current : token = recorder.currentModule.token
  · subst current
    by_cases default : recorder.current = 0
    · rw [endModule_of_default _ default, if_neg fun both => both.2 default]
      exact ⟨_, rfl⟩
    · rw [if_pos ⟨rfl, default⟩]
      cases taken : recorder.slot with
      | none =>
          rw [endModule_of_closed _ default taken]
          exact ⟨[], (report_nil _).symm⟩
      | some slot =>
          rw [endModule_of_open _ default taken]
          exact ⟨_, rfl⟩
  · rw [endModule_of_ne _ current, if_neg fun both => current both.1]
    exact ⟨_, rfl⟩

/-! ## Recording an address -/

def recordFor (recorder : Recorder) (place : Position) (address : Int64) : AddressRecord :=
  ⟨address, recorder.paths.indexOf place.file, place.line⟩

variable (place : Position) (address : Int64)

theorem recordAddress_of_known (known : address ∈ recorder.currentModule.known) :
    recorder.recordAddress place address =
      (recorder.currentModule.known.idxOf address, recorder) := by
  have found : recorder.currentModule.recordIndex? address =
      some (recorder.currentModule.known.idxOf address) :=
    List.findIdx?_eq_some_iff_findIdx_eq.2 ⟨List.idxOf_lt_length_of_mem known, rfl⟩
  rw [recordAddress, found]

theorem recordAddress_of_fresh (fresh : address ∉ recorder.currentModule.known) :
    recorder.recordAddress place address =
      (recorder.currentModule.records.length,
        { recorder.modifyCurrent (·.appendRecord address (recorder.recordFor place address)) with
          paths := recorder.paths.insert place.file }) := by
  have absent : recorder.currentModule.recordIndex? address = none :=
    List.idxOf?_eq_none_iff.2 fresh
  rw [recordAddress, absent]
  rfl

theorem addAddress_of_known (known : address ∈ recorder.currentModule.known) :
    recorder.addAddress place address = recorder := by
  rw [addAddress, recordAddress_of_known _ _ _ known]

theorem addAddress_of_fresh (fresh : address ∉ recorder.currentModule.known) :
    recorder.addAddress place address =
      { recorder.modifyCurrent (·.appendRecord address (recorder.recordFor place address)) with
        paths := recorder.paths.insert place.file } := by
  rw [addAddress, recordAddress_of_fresh _ _ _ fresh]

theorem currentModule_addAddress_of_fresh (within : recorder.current < recorder.modules.length)
    (fresh : address ∉ recorder.currentModule.known) :
    (recorder.addAddress place address).currentModule =
      recorder.currentModule.appendRecord address (recorder.recordFor place address) := by
  rw [addAddress_of_fresh _ _ _ fresh]
  exact recorder.currentModule_modifyCurrent _ within

/-! ## Recording labels and data -/

variable (declaration : Declaration)

theorem declare_of_disabled (disabled : recorder.enabled = false) :
    recorder.declare place declaration = recorder := by
  rw [declare, disabled]
  rfl

theorem declare_of_has (known : recorder.currentModule.has declaration = true) :
    recorder.declare place declaration = recorder := by
  rw [declare, known, Bool.or_true, if_pos rfl]

theorem declare_of_not_has (enabled : recorder.enabled = true)
    (fresh : recorder.currentModule.has declaration = false) :
    recorder.declare place declaration =
      (recorder.addAddress place declaration.address).modifyCurrent (·.insert declaration) := by
  rw [declare, enabled, fresh]
  rfl

/-! ## Opening and closing functions -/

theorem endFunction_of_none (free : recorder.slot = none) :
    recorder.endFunction address = recorder.refuse .notInFunction := by
  rw [endFunction, free]

theorem endFunction_of_some {slot : FunctionSlot} (taken : recorder.slot = some slot) :
    recorder.endFunction address =
      (none,
        { recorder.modifyModule slot.module (·.closeFunction slot.function address) with
          slot := none }) := by
  rw [endFunction, taken]

def closeOpen (recorder : Recorder) (address : Int64) : Recorder :=
  if recorder.slot.isSome then (recorder.endFunction address).2 else recorder

/-- Opens a function in the current module without recording its address. -/
def openHere (recorder : Recorder) (address : Int64) : Recorder :=
  { recorder.modifyCurrent (·.openFunction address) with
    slot := some ⟨recorder.current, recorder.currentModule.functions.length⟩ }

theorem closeOpen_of_none (free : recorder.slot = none) :
    recorder.closeOpen address = recorder := by
  rw [closeOpen, free, Option.isSome_none, if_neg Bool.false_ne_true]

theorem closeOpen_of_some {slot : FunctionSlot} (taken : recorder.slot = some slot) :
    recorder.closeOpen address = (recorder.endFunction address).2 := by
  rw [closeOpen, taken, Option.isSome_some, if_pos rfl]

@[simp]
theorem slot_closeOpen : (recorder.closeOpen address).slot = none := by
  cases taken : recorder.slot with
  | none => rw [closeOpen_of_none _ _ taken, taken]
  | some slot => rw [closeOpen_of_some _ _ taken, endFunction_of_some _ _ taken]

/-- Without an open function, an attempt to close one is at most reported. -/
theorem endFunction_snd :
    ∃ messages,
      (recorder.endFunction address).2 = (recorder.closeOpen address).report messages := by
  cases taken : recorder.slot with
  | none =>
      rw [closeOpen_of_none _ _ taken, endFunction_of_none _ _ taken]
      exact ⟨_, rfl⟩
  | some slot =>
      rw [closeOpen_of_some _ _ taken]
      exact ⟨[], (report_nil _).symm⟩

/-- A record does not touch the functions, so it may come before or after one is opened. -/
theorem openHere_addAddress (within : recorder.current < recorder.modules.length) :
    (recorder.openHere address).addAddress place address =
      (recorder.addAddress place address).openHere address := by
  have opened : (recorder.openHere address).currentModule =
      recorder.currentModule.openFunction address :=
    recorder.currentModule_modifyCurrent (·.openFunction address) within
  have same : (recorder.openHere address).currentModule.known = recorder.currentModule.known := by
    rw [opened]
    rfl
  by_cases known : address ∈ recorder.currentModule.known
  · rw [addAddress_of_known _ _ _ (same ▸ known), addAddress_of_known _ _ _ known]
  · rw [addAddress_of_fresh _ _ _ (same ▸ known), addAddress_of_fresh _ _ _ known]
    let append : Module → Module := (·.appendRecord address (recorder.recordFor place address))
    have commuted : (recorder.modules.modify recorder.current (·.openFunction address)).modify
          recorder.current append =
        (recorder.modules.modify recorder.current append).modify recorder.current
          (·.openFunction address) := by
      rw [List.modify_modify_eq, List.modify_modify_eq]
      rfl
    have functions : (recorder.modifyCurrent append).currentModule.functions =
        recorder.currentModule.functions := by
      rw [currentModule_modifyCurrent _ _ within]
      rfl
    calc
      _ = { recorder with
            modules := (recorder.modules.modify recorder.current
              (·.openFunction address)).modify recorder.current append
            paths := recorder.paths.insert place.file
            slot := some ⟨recorder.current, recorder.currentModule.functions.length⟩ } := rfl
      _ = _ := by rw [commuted, ← functions]; rfl

/-- The address of a function may be recorded before the function is opened. -/
theorem startFunction_eq
    (within : (recorder.closeOpen address).current < (recorder.closeOpen address).modules.length) :
    recorder.startFunction place address =
      ((recorder.closeOpen address).addAddress place address).openHere address :=
  (recorder.closeOpen address).openHere_addAddress place address within

/-! ## Saving -/

/-- Saving changes nothing but the messages. -/
theorem save_snd (place : Option Sink) :
    (recorder.save place).2 = recorder.report (recorder.save place).1.messages := by
  unfold save
  split
  · exact recorder.report_nil.symm
  · rfl
  · split
    · exact recorder.report_nil.symm
    · rfl

end Recorder

end DebugSymbols
