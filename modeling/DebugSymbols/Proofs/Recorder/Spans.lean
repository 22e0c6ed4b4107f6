import DebugSymbols.Proofs.Recorder.History
import DebugSymbols.Proofs.Recorder.Lookup
/-!
# What becomes of a function

The functions of a module are those that were opened while it was current.  How
large one is follows from what first ended it: another address closed it, or a
module was left, which drops it with its size still 0.  At most the last one has
not ended, and this is the one that the slot names.
-/

namespace DebugSymbols

/-! ## Endings -/

inductive Ending where
  | closedAt (address : Int64)
  | dropped
  deriving DecidableEq, Repr

/-- A function that was opened: the token of its module, its address and what first ended it. -/
structure Opening where
  token : Option FileToken
  address : Int64
  ending : Option Ending := none
  deriving DecidableEq, Repr

namespace Moment

/-- How the function that is open ends at a moment, if it does.  A new function closes it, and
leaving any module drops it. -/
def ending? (moment : Moment) : Option Ending :=
  match moment.event with
  | .endFunction address => some (.closedAt address)
  | .startFunction _ address => some (.closedAt address)
  | .endModule token =>
      if token = moment.stage.current ∧ token ≠ none then some .dropped else none
  | _ => none

def opening? (moment : Moment) : Option Opening :=
  match moment.event with
  | .startFunction _ address => some ⟨moment.stage.current, address, none⟩
  | _ => none

end Moment

namespace Opening

def endedBy (opening : Opening) (ending : Option Ending) : Opening :=
  { opening with ending := opening.ending.or ending }

/-- How many bytes up to where the function was closed, as a difference of 64-bit words. -/
def size (opening : Opening) : Int64 :=
  match opening.ending with
  | some (.closedAt address) => address - opening.address
  | _ => 0

def span (opening : Opening) : FunctionSpan :=
  ⟨opening.address, opening.size⟩

@[simp]
theorem endedBy_none (opening : Opening) : opening.endedBy none = opening := by
  rw [endedBy, Option.or_none]

@[simp]
theorem endedBy_endedBy (opening : Opening) (first second : Option Ending) :
    (opening.endedBy first).endedBy second = opening.endedBy (first.or second) := by
  rw [endedBy, endedBy, endedBy, Option.or_assoc]

theorem endedBy_of_ended {opening : Opening} (ended : opening.ending ≠ none)
    (ending : Option Ending) : opening.endedBy ending = opening := by
  obtain ⟨first, same⟩ := Option.ne_none_iff_exists'.1 ended
  rw [endedBy, same, Option.some_or, ← same]

theorem ending_endedBy_ne_none (opening : Opening) (ending : Ending) :
    (opening.endedBy (some ending)).ending ≠ none := by
  rw [endedBy]
  cases opening.ending with
  | none => exact Option.some_ne_none _
  | some first => exact Option.some_ne_none _

theorem span_endedBy_closedAt {opening : Opening} (running : opening.ending = none)
    (address : Int64) :
    (opening.endedBy (some (.closedAt address))).span = opening.span.closeAt address := by
  rw [endedBy, running]
  rfl

/-- A function that is dropped stays as it is. -/
@[simp]
theorem span_endedBy_dropped (opening : Opening) :
    (opening.endedBy (some .dropped)).span = opening.span := by
  cases ending : opening.ending with
  | none => rw [span, size, span, size, endedBy, ending]; rfl
  | some first => rw [endedBy_of_ended (by rw [ending]; exact Option.some_ne_none _)]

/-- The size of a function that was closed leads from its address to where that happened. -/
theorem size_spec (opening : Opening) :
    match opening.ending with
    | some (.closedAt address) => opening.address + opening.size = address
    | _ => opening.size = 0 := by
  cases ending : opening.ending with
  | none => rw [size, ending]
  | some first =>
      cases first with
      | closedAt address =>
          have size : opening.size = address - opening.address := by rw [size, ending]
          change opening.address + opening.size = address
          rw [size, Int64.add_comm, Int64.sub_add_cancel]
      | dropped => rw [size, ending]

end Opening

/-- The functions opened in a history, each with what first ended it. -/
def openings : List Moment → List Opening
  | [] => []
  | moment :: later =>
      match moment.opening? with
      | some opening => opening.endedBy (later.findSome? Moment.ending?) :: openings later
      | none => openings later

/-- What comes later ends the functions that have not ended before. -/
theorem openings_append (past later : List Moment) :
    openings (past ++ later) =
      (openings past).map (·.endedBy (later.findSome? Moment.ending?)) ++ openings later := by
  induction past with
  | nil => rfl
  | cons moment rest ih =>
      rw [List.cons_append, openings, openings, List.findSome?_append]
      cases moment.opening? with
      | none => exact ih
      | some opening =>
          simp only [List.map_cons, List.cons_append, Opening.endedBy_endedBy, ih]

theorem openings_concat (past : List Moment) (moment : Moment) :
    openings (past ++ [moment]) =
      (openings past).map (·.endedBy moment.ending?) ++ moment.opening?.toList := by
  have single : openings [moment] = moment.opening?.toList := by
    rw [openings]
    cases moment.opening? with
    | none => rfl
    | some opening => exact congrArg (· :: []) opening.endedBy_none
  have ending : [moment].findSome? Moment.ending? = moment.ending? := by
    rw [List.findSome?_cons]
    cases moment.ending? with
    | none => rfl
    | some ending => rfl
  rw [openings_append, single, ending]

/-- A function is closed by the next one, and dropped only with the module that is left. -/
example :
    openings (history [.startModule ⟨0⟩, .startFunction ⟨"a.asm", 1⟩ 8, .startModule ⟨1⟩,
      .startFunction ⟨"b.asm", 1⟩ 24, .endModule (some ⟨0⟩), .endModule (some ⟨1⟩)]) =
      [⟨some ⟨0⟩, 8, some (.closedAt 24)⟩, ⟨some ⟨1⟩, 24, some .dropped⟩] := by
  decide

/-- A moment that neither ends nor opens a function. -/
theorem openings_concat_of_idle {moment : Moment} (endless : moment.ending? = none)
    (unopened : moment.opening? = none) (past : List Moment) :
    openings (past ++ [moment]) = openings past := by
  rw [openings_concat, endless, unopened, Option.toList_none, List.append_nil]
  exact List.map_id'' Opening.endedBy_none _

def spansOf (token : Option FileToken) (opened : List Opening) : List FunctionSpan :=
  (opened.filter (·.token = token)).map Opening.span

section SpansOf

variable {opened settled : List Opening} {opening : Opening}

theorem spansOf_concat (token : Option FileToken) (opened : List Opening) (opening : Opening) :
    spansOf token (opened ++ [opening]) =
      if token = opening.token then spansOf token opened ++ [opening.span]
      else spansOf token opened := by
  rw [spansOf, List.filter_append]
  by_cases here : opening.token = token
  · rw [if_pos here.symm, List.filter_cons_of_pos (by simpa using here), List.map_append]
    rfl
  · rw [if_neg (Ne.symm here), List.filter_cons_of_neg (by simpa using here), List.filter_nil,
      List.append_nil]
    rfl

/-- Nothing more can end a function that has ended. -/
theorem map_endedBy_of_ended (ended : ∀ opening ∈ settled, opening.ending ≠ none)
    (ending : Option Ending) : settled.map (·.endedBy ending) = settled := by
  rw [List.map_congr_left fun opening member =>
    Opening.endedBy_of_ended (ended opening member) ending]
  exact List.map_id' settled

theorem filter_map_endedBy (token : Option FileToken) (opened : List Opening)
    (ending : Option Ending) :
    (opened.map (·.endedBy ending)).filter (·.token = token) =
      (opened.filter (·.token = token)).map (·.endedBy ending) :=
  List.filter_map

theorem spansOf_map_dropped (token : Option FileToken) (opened : List Opening) :
    spansOf token (opened.map (·.endedBy (some .dropped))) = spansOf token opened := by
  rw [spansOf, filter_map_endedBy, List.map_map]
  exact List.map_congr_left fun opening _ => opening.span_endedBy_dropped

end SpansOf

/-- Closing the last function. -/
theorem Module.functions_closeFunction_last {module : Module} {settled : List FunctionSpan}
    {span : FunctionSpan} (functions : module.functions = settled ++ [span]) (address : Int64) :
    (module.closeFunction settled.length address).functions =
      settled ++ [span.closeAt address] := by
  have within : settled.length < (settled ++ [span]).length := by
    rw [List.length_append]
    exact Nat.lt_succ_self _
  rw [closeFunction, functions, List.modify_eq_take_cons_drop within]
  simp

namespace Recorder

/-! ## Which function is open -/

/-- A recorder holds the functions that were opened, and its slot names the one that has not
ended. -/
structure Tracks (opened : List Opening) (recorder : Recorder) : Prop where
  functions : ∀ token, (recorder.moduleAt token).functions = spansOf token opened
  ended : recorder.slot = none → ∀ opening ∈ opened, opening.ending ≠ none
  running : ∀ {slot}, recorder.slot = some slot → ∃ settled opening,
    opened = settled ++ [opening] ∧ (∀ earlier ∈ settled, earlier.ending ≠ none) ∧
      opening.ending = none ∧ recorder.tokens[slot.module]? = some opening.token ∧
      slot.function = (spansOf opening.token settled).length

namespace Tracks

theorem of_blank {recorder : Recorder} (modules : recorder.modules = [{}])
    (slot : recorder.slot = none) : Tracks [] recorder where
  functions := fun token => by rw [moduleAt_of_blank modules]; rfl
  ended := fun _ opening member => nomatch member
  running := fun taken => by cases slot.symm.trans taken

variable {opened : List Opening} {recorder after : Recorder}

/-- What leaves the functions and the slot alone may add modules. -/
theorem keep (tracks : Tracks opened recorder)
    (functions : ∀ token, (after.moduleAt token).functions = (recorder.moduleAt token).functions)
    (slot : after.slot = recorder.slot)
    (tokens : ∀ {index : Nat} {token : Option FileToken},
      recorder.tokens[index]? = some token → after.tokens[index]? = some token) :
    Tracks opened after where
  functions := fun token => (functions token).trans (tracks.functions token)
  ended := fun free => tracks.ended (slot.symm.trans free)
  running := by
    intro named taken
    obtain ⟨settled, opening, last, ended, running, token, place⟩ :=
      tracks.running (slot.symm.trans taken)
    exact ⟨settled, opening, last, ended, running, tokens token, place⟩

/-- After an ending no function is open. -/
theorem ended_map (opened : List Opening) (ending : Ending) :
    ∀ opening ∈ opened.map (·.endedBy (some ending)), opening.ending ≠ none := by
  intro opening member
  obtain ⟨earlier, _, rfl⟩ := List.mem_map.1 member
  exact earlier.ending_endedBy_ne_none ending

theorem leave (tracks : Tracks opened recorder) :
    Tracks (opened.map (·.endedBy (some .dropped))) recorder.leave where
  functions := fun token => by
    rw [spansOf_map_dropped, ← tracks.functions token]
    rfl
  ended := fun _ => ended_map opened .dropped
  running := fun impossible => nomatch impossible

/-- The slot leads to the last function of the module in which the last opening was. -/
theorem exists_running (tracks : Tracks opened recorder) (good : recorder.WellFormed)
    {slot : FunctionSlot} (taken : recorder.slot = some slot) :
    ∃ settled opening module, opened = settled ++ [opening] ∧
      (∀ earlier ∈ settled, earlier.ending ≠ none) ∧ opening.ending = none ∧
      recorder.modules[slot.module]? = some module ∧ module.token = opening.token ∧
      module.functions = spansOf opening.token settled ++ [opening.span] ∧
      slot.function = (spansOf opening.token settled).length := by
  obtain ⟨settled, opening, last, ended, running, named, place⟩ := tracks.running taken
  rw [getElem?_tokens] at named
  obtain ⟨module, found, same⟩ := Option.map_eq_some_iff.1 named
  have functions := tracks.functions module.token
  rw [moduleAt_eq good.tokens_nodup found, same, last, spansOf_concat, if_pos rfl] at functions
  exact ⟨settled, opening, module, last, ended, running, found, same, functions, place⟩

/-- Closing the function in the slot gives the last opening its size. -/
theorem closeOpen (tracks : Tracks opened recorder) (good : recorder.WellFormed)
    (address : Int64) :
    Tracks (opened.map (·.endedBy (some (.closedAt address)))) (recorder.closeOpen address) := by
  have free := recorder.slot_closeOpen address
  refine ⟨fun token => ?_, fun _ => ended_map opened _, fun taken => ?_⟩
  · cases taken : recorder.slot with
    | none =>
        rw [closeOpen_of_none _ _ taken, map_endedBy_of_ended (tracks.ended taken)]
        exact tracks.functions token
    | some slot =>
        obtain ⟨settled, opening, module, rfl, ended, running, found, same, functions, place⟩ :=
          tracks.exists_running good taken
        -- The module of the slot need not be the current one, so the token of the opening decides.
        have changed := good.moduleAt_modifyModule found
          (·.closeFunction slot.function address) (fun _ => rfl) token
        have closed : ((recorder.closeOpen address).moduleAt token).functions =
            if token = opening.token then spansOf token settled ++ [opening.span.closeAt address]
            else spansOf token settled := by
          rw [closeOpen_of_some _ _ taken, endFunction_of_some _ _ taken]
          refine (congrArg Module.functions changed).trans ?_
          rw [same]
          split
          case isTrue here =>
            rw [place, here]
            exact Module.functions_closeFunction_last functions address
          case isFalse other =>
            rw [tracks.functions, spansOf_concat, if_neg other]
        rw [closed, List.map_append, map_endedBy_of_ended ended, List.map_singleton,
          spansOf_concat, Opening.span_endedBy_closedAt running]
        rfl
  · cases free.symm.trans taken

/-- A function that is opened comes last in its module, where the slot finds it. -/
theorem openHere (tracks : Tracks opened recorder) (good : recorder.WellFormed)
    (free : recorder.slot = none) (address : Int64) :
    Tracks (opened ++ [⟨recorder.currentModule.token, address, none⟩])
      (recorder.openHere address) := by
  refine ⟨fun token => ?_, (fun impossible => nomatch impossible), ?_⟩
  · rw [good.moduleAt_openHere, spansOf_concat]
    split
    · rw [← tracks.functions token]
      rfl
    · exact tracks.functions token
  · rintro slot ⟨⟩
    have functions := tracks.functions recorder.currentModule.token
    have tokens := (recorder.sameControl_openHere address).tokens
    refine ⟨opened, ⟨recorder.currentModule.token, address, none⟩, rfl, tracks.ended free, rfl,
      ?_, ?_⟩
    · rw [tokens, getElem?_tokens, good.getElem?_current, Option.map_some]
    · rw [← functions, good.moduleAt_current]

/-- Recording an address opens and closes nothing. -/
theorem addAddress (tracks : Tracks opened recorder) (good : recorder.WellFormed)
    (place : Position) (address : Int64) : Tracks opened (recorder.addAddress place address) := by
  have control := recorder.sameControl_addAddress place address
  refine tracks.keep (fun token => ?_) (recorder.slot_addAddress place address) fun named => ?_
  · obtain ⟨records, same⟩ := good.moduleAt_addAddress place address token
    rw [same]
  · rwa [control.tokens]

/-- Nor does adding to the symbols or the data of the current module. -/
theorem modifyCurrent (tracks : Tracks opened recorder) (good : recorder.WellFormed)
    (change : Module → Module) (token : ∀ module, (change module).token = module.token)
    (functions : ∀ module, (change module).functions = module.functions) :
    Tracks opened (recorder.modifyCurrent change) := by
  refine tracks.keep (fun other => ?_) rfl fun named => ?_
  · rw [good.moduleAt_modifyCurrent change token]
    split
    · exact functions _
    · rfl
  · exact (recorder.tokens_modifyModule recorder.current change token).symm ▸ named

theorem declare (tracks : Tracks opened recorder) (good : recorder.WellFormed) (place : Position)
    (declaration : Declaration) : Tracks opened (recorder.declare place declaration) := by
  cases enabled : recorder.enabled with
  | false => rwa [declare_of_disabled _ _ _ enabled]
  | true =>
      rw [good.declare_of_enabled enabled]
      have located := tracks.addAddress good place declaration.address
      exact located.modifyCurrent (good.addAddress place declaration.address)
        (·.insert declaration) (Module.token_insert · declaration)
        (Module.functions_insert · declaration)

theorem startFunction (tracks : Tracks opened recorder) (good : recorder.WellFormed)
    (place : Position) (address : Int64) :
    Tracks (opened.map (·.endedBy (some (.closedAt address))) ++
        [⟨recorder.currentModule.token, address, none⟩])
      (recorder.startFunction place address) := by
  have closed := good.closeOpen address
  have located := closed.addAddress place address
  have free : ((recorder.closeOpen address).addAddress place address).slot = none :=
    (slot_addAddress _ place address).trans (recorder.slot_closeOpen address)
  have token := ((recorder.sameControl_closeOpen address).trans
    (sameControl_addAddress _ place address)).token_currentModule
  rw [startFunction_eq _ _ _ closed.current_lt, ← token]
  exact ((tracks.closeOpen good address).addAddress closed place address).openHere located free
    address

theorem report (tracks : Tracks opened recorder) (messages : List Message) :
    Tracks opened (recorder.report messages) :=
  tracks.keep (fun _ => rfl) rfl id

theorem startModule (tracks : Tracks opened recorder) (token : FileToken) :
    Tracks opened (recorder.startModule token) := by
  refine tracks.keep (fun other => ?_) (recorder.slot_startModule token) fun named => ?_
  · rw [moduleAt_startModule]
  · rw [tokens_startModule]
    exact Table.getElem?_appendNew named

/-- A module that is left drops the open function, and one that is not leaves it alone. -/
theorem endModule {past : List Moment} (tracks : Tracks (openings past) recorder)
    (good : recorder.WellFormed) (token : Option FileToken) :
    Tracks (openings (past ++ [⟨recorder.stage, .endModule token⟩]))
      (recorder.endModule token).2 := by
  have unnamed_iff := good.token_eq_none_iff good.getElem?_current
  obtain ⟨messages, same⟩ := recorder.endModule_snd token
  rw [same]
  by_cases left : token = recorder.currentModule.token ∧ recorder.current ≠ 0
  · have ending : Moment.ending? ⟨recorder.stage, .endModule token⟩ = some .dropped :=
      if_pos ⟨left.1, fun unnamed => left.2 (unnamed_iff.1 (left.1 ▸ unnamed))⟩
    rw [if_pos left, openings_concat, ending]
    exact (List.append_nil _).symm ▸ tracks.leave.report messages
  · have endless : Moment.ending? ⟨recorder.stage, .endModule token⟩ = none := by
      refine if_neg fun matched => left ⟨matched.1, fun default => matched.2 ?_⟩
      exact matched.1.trans (unnamed_iff.2 default)
    rw [if_neg left, openings_concat_of_idle endless rfl]
    exact tracks.report messages

/-- The event keeps the openings with the recorder. -/
theorem step {past : List Moment} (tracks : Tracks (openings past) recorder)
    (good : recorder.WellFormed) {event : Event} (other : event ≠ .clear) :
    Tracks (openings (past ++ [⟨recorder.stage, event⟩])) (recorder.step event).2 := by
  cases event with
  | clear => exact absurd rfl other
  | configure settings =>
      rw [openings_concat_of_idle rfl rfl]
      exact tracks.keep (fun _ => rfl) rfl id
  | setEnabled enabled =>
      rw [openings_concat_of_idle rfl rfl]
      exact tracks.keep (fun _ => rfl) rfl id
  | setOutput output =>
      rw [openings_concat_of_idle rfl rfl]
      exact tracks.keep (fun _ => rfl) rfl id
  | setVersion version =>
      rw [openings_concat_of_idle rfl rfl]
      exact tracks.keep (fun _ => rfl) rfl id
  | startModule token =>
      rw [openings_concat_of_idle rfl rfl]
      exact tracks.startModule token
  | endModule token => exact tracks.endModule good token
  | addLabel place address name =>
      rw [openings_concat_of_idle rfl rfl]
      exact tracks.declare good place (.label ⟨address, name⟩)
  | addData place address size kind =>
      rw [openings_concat_of_idle rfl rfl]
      exact tracks.declare good place (.datum ⟨address, size, kind⟩)
  | addAddress place address =>
      rw [openings_concat_of_idle rfl rfl]
      exact tracks.addAddress good place address
  | startFunction place address =>
      rw [openings_concat]
      exact tracks.startFunction good place address
  | endFunction address =>
      obtain ⟨messages, same⟩ := recorder.endFunction_snd address
      have closed := (tracks.closeOpen good address).report messages
      rw [← same] at closed
      rw [openings_concat]
      exact (List.append_nil _).symm ▸ closed
  | save place =>
      rw [openings_concat_of_idle rfl rfl]
      have saved := tracks.report (recorder.save place).1.messages
      rwa [← save_snd] at saved

theorem run (messages : List Message) (events : List Event) :
    Tracks (openings (history events)) ((fresh messages).run events) := by
  refine history_induction (motive := fun past => Tracks (openings past)) ?_ ?_ messages events
  · intro recorder modules _ slot
    exact of_blank modules slot
  · intro past recorder event good other tracks
    exact tracks.step good other

/-- The function that is open is the one that has not ended. -/
theorem running_eq (tracks : Tracks opened recorder) (good : recorder.WellFormed) :
    (opened.filter (·.ending = none)).map Opening.span = recorder.openFunction?.toList := by
  have dropped : ∀ {settled : List Opening}, (∀ opening ∈ settled, opening.ending ≠ none) →
      settled.filter (·.ending = none) = [] := by
    intro settled ended
    exact List.filter_eq_nil_iff.2 fun opening member => by simpa using ended opening member
  cases taken : recorder.slot with
  | none =>
      rw [openFunction?, taken, dropped (tracks.ended taken)]
      rfl
  | some slot =>
      obtain ⟨settled, opening, module, rfl, ended, running, found, _, functions, place⟩ :=
        tracks.exists_running good taken
      rw [openFunction?, taken, Option.bind_some, found, Option.bind_some, functions, place,
        List.getElem?_concat_length, List.filter_append, dropped ended,
        List.filter_cons_of_pos (by simpa using running)]
      rfl

end Tracks

/-! ## Along a whole run -/

structure KeepsFunctions (before after : Recorder) : Prop where
  slot : after.slot = before.slot
  openFunction : after.openFunction? = before.openFunction?
  modules : before.modules <+: after.modules

variable {recorder after : Recorder}

theorem KeepsFunctions.of_isPrefix (good : recorder.WellFormed)
    (slot : after.slot = recorder.slot) (modules : recorder.modules <+: after.modules) :
    KeepsFunctions recorder after := by
  refine ⟨slot, ?_, modules⟩
  rw [openFunction?, openFunction?, slot]
  cases taken : recorder.slot with
  | none => rfl
  | some named =>
      obtain ⟨module, found, _⟩ := good.slot_open taken
      obtain ⟨more, same⟩ := modules
      have within := (List.getElem?_eq_some_iff.1 found).1
      rw [Option.bind_some, Option.bind_some, ← same, List.getElem?_append_left within]

theorem keepsFunctions_startModule (good : recorder.WellFormed) (token : FileToken) :
    KeepsFunctions recorder (recorder.startModule token) := by
  refine .of_isPrefix good (recorder.slot_startModule token) ?_
  by_cases started : some token ∈ recorder.tokens
  · exact ⟨[], by rw [startModule_of_mem _ started, List.append_nil]⟩
  · exact ⟨[{ token := some token }], by rw [startModule_of_not_mem _ started]⟩

/-- Only a module that is really left drops the open function. -/
theorem keepsFunctions_endModule (good : recorder.WellFormed) {token : Option FileToken}
    (refused : (recorder.endModule token).1 = some .moduleMismatch ∨
      (recorder.endModule token).1 = some .noModuleOpened) :
    KeepsFunctions recorder (recorder.endModule token).2 := by
  by_cases current : token = recorder.currentModule.token
  · subst current
    by_cases default : recorder.current = 0
    · rw [endModule_of_default _ default]
      exact .of_isPrefix good rfl List.prefix_rfl
    · exfalso
      cases taken : recorder.slot with
      | none =>
          rw [endModule_of_closed _ default taken] at refused
          rcases refused with impossible | impossible
          · cases impossible
          · cases impossible
      | some slot =>
          rw [endModule_of_open _ default taken] at refused
          rcases refused with impossible | impossible
          · cases impossible
          · cases impossible
  · rw [endModule_of_ne _ current]
    exact .of_isPrefix good rfl List.prefix_rfl

/-- A function that has ended keeps its place and its size. -/
theorem exists_settled (messages : List Message) (events : List Event) {later : List Event}
    (uncleared : .clear ∉ later) {token : Option FileToken} {place : Nat} {opening : Opening}
    (found : ((openings (history events)).filter (·.token = token))[place]? = some opening)
    (ended : opening.ending ≠ none) :
    ∃ module ∈ ((fresh messages).run (events ++ later)).modules,
      module.token = token ∧ module.functions[place]? = some opening.span := by
  have good := (WellFormed.fresh messages).run (events ++ later)
  have functions := (Tracks.run messages (events ++ later)).functions token
  have standing : (spansOf token (openings (history (events ++ later))))[place]? =
      some opening.span := by
    have within := (List.getElem?_eq_some_iff.1 found).1
    rw [history_append events uncleared, openings_append, spansOf, List.filter_append,
      filter_map_endedBy, List.map_append, List.map_map,
      List.getElem?_append_left (by rwa [List.length_map]), List.getElem?_map, found,
      Option.map_some, Function.comp_apply, Opening.endedBy_of_ended ended]
  rw [← functions] at standing
  -- A token that was not started has no functions, so the module is there.
  by_cases started : token ∈ ((fresh messages).run (events ++ later)).tokens
  · obtain ⟨index, module, present, rfl⟩ := exists_getElem?_of_mem_tokens started
    rw [moduleAt_eq good.tokens_nodup present] at standing
    exact ⟨module, List.mem_of_getElem? present, rfl, standing⟩
  · rw [moduleAt_of_not_mem started] at standing
    cases standing

/-- Each module has the functions that were opened while it was current.  A function that was
closed reaches up to where that happened, one that was dropped stays at size 0, and neither
changes any more.  The only other one is open, and switching modules does not close it. -/
theorem functions_of_history (messages : List Message) (events : List Event) :
    let recorder := (fresh messages).run events
    let opened := openings (history events)
    (∀ module ∈ recorder.modules, module.functions = spansOf module.token opened) ∧
      (∀ opening ∈ opened,
        match opening.ending with
        | some (.closedAt address) => opening.address + opening.size = address
        | _ => opening.size = 0) ∧
      (opened.filter (·.ending = none)).map Opening.span = recorder.openFunction?.toList ∧
      (∀ slot, recorder.slot = some slot → ∃ (settled : List Opening) (opening : Opening),
        opened = settled ++ [opening] ∧ opening.ending = none ∧
          recorder.tokens[slot.module]? = some opening.token ∧
          slot.function = (spansOf opening.token settled).length) ∧
      (∀ later, .clear ∉ later → ∀ token (place : Nat) (opening : Opening),
        (opened.filter (·.token = token))[place]? = some opening → opening.ending ≠ none →
          ∃ module ∈ ((fresh messages).run (events ++ later)).modules,
            module.token = token ∧ module.functions[place]? = some opening.span) ∧
      (∀ token, KeepsFunctions recorder (recorder.step (.startModule token)).2) ∧
      ∀ token, (recorder.step (.endModule token)).1 = .closed (some .moduleMismatch) ∨
          (recorder.step (.endModule token)).1 = .closed (some .noModuleOpened) →
        KeepsFunctions recorder (recorder.step (.endModule token)).2 := by
  have good := (WellFormed.fresh messages).run events
  have tracks := Tracks.run messages events
  refine ⟨?_, fun opening _ => opening.size_spec, tracks.running_eq good, ?_, ?_,
    keepsFunctions_startModule good, ?_⟩
  · intro module member
    obtain ⟨index, found⟩ := List.mem_iff_getElem?.1 member
    rw [← tracks.functions, moduleAt_eq good.tokens_nodup found]
  · intro slot taken
    obtain ⟨settled, opening, last, _, running, token, place⟩ := tracks.running taken
    exact ⟨settled, opening, last, running, token, place⟩
  · intro later uncleared token place opening found ended
    exact exists_settled messages events uncleared found ended
  · intro token refused
    refine keepsFunctions_endModule good (refused.imp ?_ ?_)
    · exact fun same => Reply.closed.inj same
    · exact fun same => Reply.closed.inj same

end Recorder

end DebugSymbols
