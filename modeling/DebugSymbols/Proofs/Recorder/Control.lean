import DebugSymbols.Proofs.Recorder.Operations
/-!
# What recording leaves alone

Labels, data, addresses and functions go into the current module, so recording
them changes neither which modules there are nor which of them is current, and
it reports nothing.  Neither this nor switching modules changes what is saved
where.
-/

namespace DebugSymbols

namespace Recorder

/-- Two recorders with the same modules, of which the same one is current, the same flag and the
same reports.  What the modules hold may differ, and so may the slot and the paths. -/
structure SameControl (before after : Recorder) : Prop where
  tokens : after.tokens = before.tokens
  current : after.current = before.current
  enabled : after.enabled = before.enabled
  messages : after.messages = before.messages

namespace SameControl

variable {first second third : Recorder}

theorem refl (recorder : Recorder) : SameControl recorder recorder :=
  ⟨rfl, rfl, rfl, rfl⟩

theorem trans (left : SameControl first second) (right : SameControl second third) :
    SameControl first third where
  tokens := right.tokens.trans left.tokens
  current := right.current.trans left.current
  enabled := right.enabled.trans left.enabled
  messages := right.messages.trans left.messages

end SameControl

variable (recorder : Recorder)

theorem token_currentModule :
    recorder.currentModule.token = (recorder.tokens[recorder.current]?).getD none := by
  rw [currentModule, getElem?_tokens]
  cases recorder.modules[recorder.current]? with
  | none => rfl
  | some module => rfl

theorem SameControl.token_currentModule {before after : Recorder}
    (same : SameControl before after) :
    after.currentModule.token = before.currentModule.token := by
  rw [Recorder.token_currentModule, Recorder.token_currentModule, same.tokens, same.current]

theorem sameControl_modifyModule (index : Nat) (change : Module → Module)
    (kept : ∀ module, (change module).token = module.token) :
    SameControl recorder (recorder.modifyModule index change) :=
  ⟨recorder.tokens_modifyModule index change kept, rfl, rfl, rfl⟩

theorem sameControl_addAddress (place : Position) (address : Int64) :
    SameControl recorder (recorder.addAddress place address) := by
  by_cases known : address ∈ recorder.currentModule.known
  · rw [addAddress_of_known _ _ _ known]
    exact .refl recorder
  · rw [addAddress_of_fresh _ _ _ known]
    let append : Module → Module := (·.appendRecord address (recorder.recordFor place address))
    exact { recorder.sameControl_modifyModule recorder.current append fun _ => rfl with }

@[simp]
theorem slot_addAddress (place : Position) (address : Int64) :
    (recorder.addAddress place address).slot = recorder.slot := by
  unfold addAddress recordAddress
  split
  · rfl
  · rfl

theorem sameControl_declare (place : Position) (declaration : Declaration) :
    SameControl recorder (recorder.declare place declaration) := by
  unfold declare
  split
  · exact .refl recorder
  · exact (recorder.sameControl_addAddress place declaration.address).trans
      (sameControl_modifyModule _ _ (·.insert declaration) (Module.token_insert · declaration))

@[simp]
theorem slot_declare (place : Position) (declaration : Declaration) :
    (recorder.declare place declaration).slot = recorder.slot := by
  unfold declare
  split
  · rfl
  · exact recorder.slot_addAddress place declaration.address

/-- Closing the open function to make room for the next is not reported. -/
theorem sameControl_closeOpen (address : Int64) :
    SameControl recorder (recorder.closeOpen address) := by
  cases taken : recorder.slot with
  | none =>
      rw [closeOpen_of_none _ _ taken]
      exact .refl recorder
  | some slot =>
      rw [closeOpen_of_some _ _ taken, endFunction_of_some _ _ taken]
      let close : Module → Module := (·.closeFunction slot.function address)
      exact { recorder.sameControl_modifyModule slot.module close fun _ => rfl with }

theorem sameControl_openHere (address : Int64) :
    SameControl recorder (recorder.openHere address) :=
  { recorder.sameControl_modifyModule recorder.current (·.openFunction address) fun _ => rfl with }

theorem sameControl_startFunction (place : Position) (address : Int64) :
    SameControl recorder (recorder.startFunction place address) :=
  (recorder.sameControl_closeOpen address).trans <|
    (sameControl_openHere _ address).trans (sameControl_addAddress _ place address)

@[simp]
theorem isSome_slot_startFunction (place : Position) (address : Int64) :
    (recorder.startFunction place address).slot.isSome = true := by
  rw [startFunction, slot_addAddress]
  rfl

/-! ## Where a recorder saves -/

def target (recorder : Recorder) : Option String × UInt32 :=
  (recorder.output, recorder.version)

@[simp]
theorem target_startModule (token : FileToken) :
    (recorder.startModule token).target = recorder.target := by
  simp only [startModule]
  split
  · rfl
  · rfl

@[simp]
theorem target_endModule (token : Option FileToken) :
    (recorder.endModule token).2.target = recorder.target := by
  obtain ⟨messages, same⟩ := recorder.endModule_snd token
  rw [same]
  split
  · rfl
  · rfl

@[simp]
theorem target_addAddress (place : Position) (address : Int64) :
    (recorder.addAddress place address).target = recorder.target := by
  unfold addAddress recordAddress
  split
  · rfl
  · rfl

@[simp]
theorem target_declare (place : Position) (declaration : Declaration) :
    (recorder.declare place declaration).target = recorder.target := by
  unfold declare
  split
  · rfl
  · exact recorder.target_addAddress place declaration.address

@[simp]
theorem target_endFunction (address : Int64) :
    (recorder.endFunction address).2.target = recorder.target := by
  unfold endFunction
  split
  · rfl
  · rfl

@[simp]
theorem target_startFunction (place : Position) (address : Int64) :
    (recorder.startFunction place address).target = recorder.target := by
  simp only [startFunction]
  rw [target_addAddress]
  split
  · exact recorder.target_endFunction address
  · rfl

end Recorder

end DebugSymbols
