import DebugSymbols.Proofs.Recorder.Invariant
import DebugSymbols.Proofs.Recorder.Control
import Mathlib.Data.List.Forall2
/-!
# Modules by token

A token that has not been started stands for an empty module.  Seen this way
starting and closing modules changes nothing, and what is recorded changes the
module of the current token alone.
-/

namespace DebugSymbols

namespace Recorder

/-- The module of a token, which is empty before it is started. -/
def moduleAt (recorder : Recorder) (token : Option FileToken) : Module :=
  (recorder.modules.find? (·.token == token)).getD { token := token }

variable {recorder : Recorder}

theorem moduleAt_eq (once : recorder.tokens.Nodup) {index : Nat} {module : Module}
    (found : recorder.modules[index]? = some module) :
    recorder.moduleAt module.token = module := by
  have standing := (Table.find?_eq_some_iff_of_nodup once).2
    ⟨List.mem_of_getElem? found, (rfl : module.token = module.token)⟩
  exact congrArg (Option.getD · { token := module.token }) standing

theorem moduleAt_of_not_mem {token : Option FileToken} (fresh : token ∉ recorder.tokens) :
    recorder.moduleAt token = { token := token } := by
  have absent : recorder.modules.find? (·.token == token) = none := by
    rw [List.find?_eq_none]
    intro module member matched
    exact fresh (List.mem_map.2 ⟨module, member, beq_iff_eq.1 matched⟩)
  rw [moduleAt, absent, Option.getD_none]

/-- A recorder without started modules has empty ones only. -/
theorem moduleAt_of_blank (blank : recorder.modules = [{}]) (token : Option FileToken) :
    recorder.moduleAt token = { token := token } := by
  rw [moduleAt, blank]
  cases token with
  | none => rfl
  | some token => rfl

theorem exists_getElem?_of_mem_tokens {token : Option FileToken}
    (started : token ∈ recorder.tokens) :
    ∃ (index : Nat) (module : Module),
      recorder.modules[index]? = some module ∧ module.token = token := by
  obtain ⟨module, member, same⟩ := List.mem_map.1 started
  obtain ⟨index, found⟩ := List.mem_iff_getElem?.1 member
  exact ⟨index, module, found, same⟩

@[simp]
theorem token_moduleAt (token : Option FileToken) : (recorder.moduleAt token).token = token := by
  cases found : recorder.modules.find? (·.token == token) with
  | none => rw [moduleAt, found]; rfl
  | some module =>
      have matched := List.find?_some found
      rw [moduleAt, found]
      exact beq_iff_eq.1 matched

/-- Recorders with the same tokens are compared module by module. -/
theorem forall₂_modules {relation : Module → Module → Prop} {before after : Recorder}
    (once : before.tokens.Nodup) (tokens : after.tokens = before.tokens)
    (here : ∀ token, relation (before.moduleAt token) (after.moduleAt token)) :
    List.Forall₂ relation before.modules after.modules := by
  refine List.forall₂_iff_get.2 ⟨?_, fun index within inside => ?_⟩
  · rw [← length_tokens, ← length_tokens, tokens]
  · have first := List.getElem?_eq_getElem within
    have second := List.getElem?_eq_getElem inside
    have same : after.modules[index].token = before.modules[index].token := by
      have named := congrArg (·[index]?) tokens
      simpa only [getElem?_tokens, first, second, Option.map_some, Option.some.injEq] using named
    have related := here before.modules[index].token
    rw [moduleAt_eq once first, ← same, moduleAt_eq (tokens ▸ once) second] at related
    exact related

namespace WellFormed

theorem moduleAt_current (good : recorder.WellFormed) :
    recorder.moduleAt recorder.currentModule.token = recorder.currentModule :=
  moduleAt_eq good.tokens_nodup good.getElem?_current

/-- Changing one module is seen under its token only. -/
theorem moduleAt_modifyModule (good : recorder.WellFormed) {index : Nat} {module : Module}
    (found : recorder.modules[index]? = some module) (change : Module → Module)
    (kept : ∀ module, (change module).token = module.token) (token : Option FileToken) :
    (recorder.modifyModule index change).moduleAt token =
      if token = module.token then change module else recorder.moduleAt token := by
  have tokens := recorder.tokens_modifyModule index change kept
  have once : (recorder.modifyModule index change).tokens.Nodup := tokens.symm ▸ good.tokens_nodup
  by_cases started : token ∈ recorder.tokens
  · obtain ⟨place, other, standing, rfl⟩ := exists_getElem?_of_mem_tokens started
    have changed : (recorder.modifyModule index change).modules[place]? =
        some (if index = place then change other else other) := by
      rw [getElem?_modifyModule, standing, Option.map_some]
    have looked := moduleAt_eq once changed
    by_cases here : index = place
    · subst here
      cases found.symm.trans standing
      rw [if_pos rfl, kept] at looked
      rw [if_pos rfl, looked]
    · have different : other.token ≠ module.token := by
        intro same
        have first : recorder.tokens[index]? = some module.token := by
          rw [getElem?_tokens, found, Option.map_some]
        have second : recorder.tokens[place]? = some other.token := by
          rw [getElem?_tokens, standing, Option.map_some]
        have within := (List.getElem?_eq_some_iff.1 first).1
        exact here ((List.getElem?_inj within good.tokens_nodup).1
          (first.trans (same ▸ second.symm)))
      rw [if_neg here] at looked
      rw [if_neg different, looked, moduleAt_eq good.tokens_nodup standing]
  · have other : token ≠ module.token := by
      rintro rfl
      exact started (List.mem_map.2 ⟨module, List.mem_of_getElem? found, rfl⟩)
    rw [if_neg other, moduleAt_of_not_mem started, moduleAt_of_not_mem (tokens.symm ▸ started)]

/-- What goes into the current module goes under its token. -/
theorem moduleAt_modifyCurrent (good : recorder.WellFormed) (change : Module → Module)
    (kept : ∀ module, (change module).token = module.token) (token : Option FileToken) :
    (recorder.modifyCurrent change).moduleAt token =
      if token = recorder.currentModule.token then change (recorder.moduleAt token)
      else recorder.moduleAt token := by
  have changed := good.moduleAt_modifyModule good.getElem?_current change kept token
  by_cases current : token = recorder.currentModule.token
  · rw [if_pos current] at changed ⊢
    rw [current, good.moduleAt_current]
    rwa [current] at changed
  · rw [if_neg current] at changed ⊢
    exact changed

/-- Recording an address adds to the records only. -/
theorem moduleAt_addAddress (good : recorder.WellFormed) (place : Position) (address : Int64)
    (token : Option FileToken) : ∃ records, (recorder.addAddress place address).moduleAt token =
      { recorder.moduleAt token with records := records } := by
  by_cases known : address ∈ recorder.currentModule.known
  · rw [addAddress_of_known _ _ _ known]
    exact ⟨_, rfl⟩
  · rw [addAddress_of_fresh _ _ _ known]
    have changed := good.moduleAt_modifyCurrent
      (·.appendRecord address (recorder.recordFor place address)) (fun _ => rfl) token
    split at changed
    · exact ⟨_, changed⟩
    · exact ⟨_, changed⟩

/-- Closing a function changes functions only. -/
theorem moduleAt_endFunction (good : recorder.WellFormed) (address : Int64)
    (token : Option FileToken) : ∃ functions, (recorder.endFunction address).2.moduleAt token =
      { recorder.moduleAt token with functions := functions } := by
  cases taken : recorder.slot with
  | none =>
      rw [endFunction_of_none _ _ taken]
      exact ⟨_, rfl⟩
  | some slot =>
      rw [endFunction_of_some _ _ taken]
      obtain ⟨module, found, _⟩ := good.slot_open taken
      have changed := good.moduleAt_modifyModule found
        (·.closeFunction slot.function address) (fun _ => rfl) token
      split at changed
      case isTrue same =>
        rw [same, moduleAt_eq good.tokens_nodup found]
        exact ⟨_, same ▸ changed⟩
      case isFalse => exact ⟨_, changed⟩

theorem moduleAt_openHere (good : recorder.WellFormed) (address : Int64)
    (token : Option FileToken) : (recorder.openHere address).moduleAt token =
      if token = recorder.currentModule.token then (recorder.moduleAt token).openFunction address
      else recorder.moduleAt token :=
  good.moduleAt_modifyCurrent (·.openFunction address) (fun _ => rfl) token

end WellFormed

/-! ## Switching modules -/

/-- A module that is started was empty before, and so it is afterwards. -/
@[simp]
theorem moduleAt_startModule (recorder : Recorder) (started : FileToken)
    (token : Option FileToken) :
    (recorder.startModule started).moduleAt token = recorder.moduleAt token := by
  by_cases known : some started ∈ recorder.tokens
  · rw [startModule_of_mem _ known]
    rfl
  · rw [startModule_of_not_mem _ known, moduleAt, moduleAt, List.find?_append]
    cases recorder.modules.find? (·.token == token) with
    | some module => rfl
    | none =>
        by_cases same : some started = token
        · simp [same]
        · simp [same]

@[simp]
theorem paths_startModule (recorder : Recorder) (token : FileToken) :
    (recorder.startModule token).paths = recorder.paths := by
  simp only [startModule]
  split
  · rfl
  · rfl

/-- A look-up reads the modules only. -/
theorem moduleAt_congr {before after : Recorder} (same : after.modules = before.modules)
    (token : Option FileToken) : after.moduleAt token = before.moduleAt token := by
  rw [moduleAt, moduleAt, same]

end Recorder

end DebugSymbols
