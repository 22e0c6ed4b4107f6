import DebugSymbols.Proofs.Recorder.Spans
import DebugSymbols.Proofs.Recorder.Tables
import DebugSymbols.Proofs.SymbolFile.Canonical
/-!
# Recording the same again

When a run has come back to the stage at which it began, the same events bring
the same moments once more.  A moment that has been before adds nothing to any
table.  A function is opened again, but it stands behind the first one at its
address, which is the one that is found.
-/

namespace DebugSymbols

/-! ## Moments that have been before -/

section Repeated

variable {past again : List Moment}

theorem eraseDups_filterMap_append_of_subset {α : Type} [DecidableEq α] (told : Moment → Option α)
    (repeated : again ⊆ past) :
    ((past ++ again).filterMap told).eraseDups = (past.filterMap told).eraseDups := by
  rw [List.filterMap_append]
  exact Table.eraseDups_append_of_subset (List.filterMap_subset told repeated)

theorem mentions_append (past later : List Moment) :
    mentions (past ++ later) = mentions past ++ mentions later :=
  List.filterMap_append

theorem firstMentions_append_of_subset (repeated : again ⊆ past) (token : Option FileToken) :
    firstMentions token (mentions (past ++ again)) = firstMentions token (mentions past) := by
  have mentioned : mentions again ⊆ mentions past :=
    List.filterMap_subset Moment.mention? repeated
  rw [mentions_append, firstMentions, List.filter_append]
  exact Table.firstBy_append_of_subset (List.map_subset _ (List.filter_subset _ mentioned))

theorem creations_append_of_subset (repeated : again ⊆ past) :
    creations (mentions (past ++ again)) = creations (mentions past) := by
  have mentioned : mentions again ⊆ mentions past :=
    List.filterMap_subset Moment.mention? repeated
  rw [mentions_append]
  exact Table.firstBy_append_of_subset (List.map_subset _ mentioned)

def Opening.site (opening : Opening) : Option FileToken × Int64 :=
  (opening.token, opening.address)

/-- However they end, the functions are those that were opened. -/
theorem map_site_openings (past : List Moment) :
    (openings past).map Opening.site =
      past.filterMap fun moment => moment.opening?.map Opening.site := by
  induction past with
  | nil => rfl
  | cons moment rest ih =>
      rw [openings, List.filterMap_cons]
      cases moment.opening? with
      | none => exact ih
      | some opening => exact congrArg (opening.site :: ·) ih

theorem exists_opening_of_repeated (repeated : again ⊆ past) {opening : Opening}
    (member : opening ∈ openings again) :
    ∃ first ∈ openings past, first.token = opening.token ∧ first.address = opening.address := by
  have sites : (openings again).map Opening.site ⊆ (openings past).map Opening.site := by
    rw [map_site_openings, map_site_openings]
    exact List.filterMap_subset _ repeated
  obtain ⟨first, standing, same⟩ := List.mem_map.1 (sites (List.mem_map_of_mem member))
  exact ⟨first, standing, congrArg Prod.fst same, congrArg Prod.snd same⟩

end Repeated

/-- A module after a repetition: nothing is new but functions behind those that it had, and none
of them is the first at its address. -/
structure Module.Repeated (before after : Module) : Prop where
  token : after.token = before.token
  symbols : after.symbols = before.symbols
  data : after.data = before.data
  records : after.records = before.records
  functions : before.functions <+: after.functions
  functionAt : ∀ address, after.functionAt? address = before.functionAt? address

theorem Module.Repeated.sameExport {before after : Module} (repeated : before.Repeated after) :
    SymbolFile.SameExport before after where
  symbols := by rw [repeated.symbols]
  data := by rw [repeated.data]
  functionAt := fun address => (repeated.functionAt address).symm

namespace Recorder

variable {recorder : Recorder}

/-! ## What a history decides -/

/-- A record that tells an address and a place is known once the paths are. -/
theorem eq_of_located (once : recorder.paths.paths.Nodup) {record : Int64 × AddressRecord}
    {key address : Int64} {place : Position}
    (located : record.map id recorder.located = (key, address, some place)) :
    record = (key, ⟨address, recorder.paths.indexOf place.file, place.line⟩) := by
  obtain ⟨rfl, told⟩ := Prod.ext_iff.1 located
  obtain ⟨rfl, told⟩ := Prod.ext_iff.1 told
  obtain ⟨file, standing, rfl⟩ := Option.map_eq_some_iff.1 told
  obtain ⟨within, rfl⟩ := List.getElem?_eq_some_iff.1 standing
  have file : recorder.paths.indexOf recorder.paths.paths[record.2.file] = record.2.file :=
    once.idxOf_getElem record.2.file within
  rw [file]
  rfl

variable {past : List Moment}

/-- The records of a module follow from the history and the paths. -/
theorem Tables.records_eq (tables : Tables past recorder)
    (once : recorder.paths.paths.Nodup) (token : Option FileToken) :
    (recorder.moduleAt token).records =
      (firstMentions token (mentions past)).map fun mention =>
        (mention.address,
          ⟨mention.address, recorder.paths.indexOf mention.place.file, mention.place.line⟩) := by
  have told := tables.records token
  rw [← List.forall₂_eq_eq_eq, List.forall₂_map_left_iff, List.forall₂_map_right_iff] at told
  rw [← List.forall₂_eq_eq_eq, List.forall₂_map_right_iff]
  exact told.imp fun _ _ located => eq_of_located once located

/-! ## Moments that have been before -/

variable {again : List Moment} {before after : Recorder}

/-- Moments that have been before add nothing to the tables. -/
theorem Tables.of_repeated (tables : Tables (past ++ again) recorder) (repeated : again ⊆ past) :
    Tables past recorder where
  tokens := by
    rw [tables.tokens, List.filterMap_append, ← List.cons_append]
    exact Table.eraseDups_append_of_subset fun _ member =>
      List.mem_cons_of_mem _ (List.filterMap_subset Moment.started? repeated member)
  symbols := fun token =>
    (tables.symbols token).trans (eraseDups_filterMap_append_of_subset _ repeated)
  data := fun token => (tables.data token).trans (eraseDups_filterMap_append_of_subset _ repeated)
  records := fun token => by rw [tables.records, firstMentions_append_of_subset repeated]
  paths := by rw [tables.paths, creations_append_of_subset repeated]

/-- Once all functions have ended, further ones stand behind them. -/
theorem Tracks.functions_append (tracks : Tracks (openings past) before)
    (free : before.slot = none) (more : Tracks (openings (past ++ again)) after)
    (token : Option FileToken) :
    (after.moduleAt token).functions =
      (before.moduleAt token).functions ++ spansOf token (openings again) := by
  rw [more.functions, tracks.functions, openings_append, map_endedBy_of_ended (tracks.ended free),
    spansOf, List.filter_append, List.map_append]
  rfl

/-- A function that is opened again is not the first at its address. -/
theorem Tracks.functionAt?_eq (tracks : Tracks (openings past) before)
    (free : before.slot = none) (more : Tracks (openings (past ++ again)) after)
    (repeated : again ⊆ past) (token : Option FileToken) (address : Int64) :
    (after.moduleAt token).functionAt? address = (before.moduleAt token).functionAt? address := by
  rw [Module.functionAt?, Module.functionAt?, tracks.functions_append free more, List.find?_append]
  cases found : (before.moduleAt token).functions.find? (·.address == address) with
  | some span => rfl
  | none =>
      refine List.find?_eq_none.2 fun span member matched => ?_
      obtain ⟨opening, standing, rfl⟩ := List.mem_map.1 member
      obtain ⟨opened, here⟩ := List.mem_filter.1 standing
      obtain ⟨first, earlier, sameToken, sameAddress⟩ :=
        exists_opening_of_repeated repeated opened
      have known : first.span ∈ (before.moduleAt token).functions := by
        rw [tracks.functions]
        refine List.mem_map_of_mem (List.mem_filter.2 ⟨earlier, ?_⟩)
        rwa [sameToken]
      have address_eq : first.span.address = opening.span.address := sameAddress
      have other := List.find?_eq_none.1 found first.span known
      rw [address_eq] at other
      exact other matched

/-- What a recorder holds after moments that have been before. -/
theorem repeated_of_tables (good : before.WellFormed) (tables : Tables past before)
    (tracks : Tracks (openings past) before) (free : before.slot = none)
    (moreTables : Tables (past ++ again) after)
    (moreTracks : Tracks (openings (past ++ again)) after) (repeated : again ⊆ past) :
    List.Forall₂ Module.Repeated before.modules after.modules ∧ after.paths = before.paths := by
  have same := moreTables.of_repeated repeated
  have paths : after.paths = before.paths :=
    congrArg PathTable.mk (same.paths.trans tables.paths.symm)
  have once : after.paths.paths.Nodup := paths ▸ good.paths_nodup
  refine ⟨forall₂_modules good.tokens_nodup (same.tokens.trans tables.tokens.symm) ?_, paths⟩
  exact fun token =>
    { token := by rw [token_moduleAt, token_moduleAt]
      symbols := (same.symbols token).trans (tables.symbols token).symm
      data := (same.data token).trans (tables.data token).symm
      records := by rw [same.records_eq once, tables.records_eq good.paths_nodup, paths]
      functions := ⟨_, (tracks.functions_append free moreTracks token).symm⟩
      functionAt := tracks.functionAt?_eq free moreTracks repeated token }

/-! ## The same events again -/

theorem Tables.tokens_isPrefix (tables : Tables past before)
    (more : Tables (past ++ again) after) : before.tokens <+: after.tokens := by
  rw [tables.tokens, more.tokens, List.filterMap_append, ← List.cons_append, List.eraseDups_append]
  exact List.prefix_append _ _

theorem slot_eq_none_of_openFunction? (good : recorder.WellFormed)
    (free : recorder.openFunction? = none) : recorder.slot = none := by
  have same := isSome_openFunction? good
  rw [free] at same
  exact Option.not_isSome_iff_eq_none.1 (Bool.eq_false_iff.1 same.symm)

/-- The stage of a recorder that has only got more modules. -/
theorem stage_eq_of_isPrefix (good : before.WellFormed) (tokens : before.tokens <+: after.tokens)
    (current : after.current = before.current) (enabled : after.enabled = before.enabled)
    (slot : after.slot = before.slot) : after.stage = before.stage := by
  obtain ⟨more, same⟩ := tokens
  have within : before.current < before.tokens.length := before.length_tokens ▸ good.current_lt
  have named : after.currentModule.token = before.currentModule.token := by
    rw [token_currentModule, token_currentModule, current, ← same,
      List.getElem?_append_left within]
  rw [stage, stage, protocol, protocol, named, enabled, slot]

theorem history_append_stage (messages : List Message) (events : List Event) {later : List Event}
    (uncleared : .clear ∉ later) :
    history (events ++ later) =
      history events ++ moments ((fresh messages).run events).stage later := by
  have stage : ((fresh messages).run events).stage = Stage.run {} events :=
    stage_run (WellFormed.fresh messages) events
  rw [history_append events uncleared, stage]

/-- Events that lead back to the module and the flag at which they began, without a function open
before and after them, add only functions when they come again. -/
theorem run_again (messages : List Message) {past events : List Event}
    (uncleared : .clear ∉ events) :
    let start := (fresh messages).run past
    let once := start.run events
    once.current = start.current → once.enabled = start.enabled →
      start.openFunction? = none → once.openFunction? = none →
        List.Forall₂ Module.Repeated once.modules (once.run events).modules ∧
          (once.run events).paths = once.paths := by
  intro start once current enabled free closed
  have goodStart : start.WellFormed := (WellFormed.fresh messages).run past
  have good : once.WellFormed := goodStart.run events
  have slot : start.slot = none := slot_eq_none_of_openFunction? goodStart free
  have slotOnce : once.slot = none := slot_eq_none_of_openFunction? good closed
  let again := moments start.stage events
  have once_eq : (fresh messages).run (past ++ events) = once := run_append _ _ _
  have twice_eq : (fresh messages).run (past ++ events ++ events) = once.run events := by
    rw [run_append, once_eq]
  have first : history (past ++ events) = history past ++ again :=
    history_append_stage messages past uncleared
  have tables := Tables.run messages (past ++ events)
  have tracks := Tracks.run messages (past ++ events)
  rw [once_eq] at tables tracks
  -- The stage is the same as at the beginning, so the events come at the same moments.
  have stage : once.stage = start.stage := by
    refine stage_eq_of_isPrefix goodStart ?_ current enabled (slotOnce.trans slot.symm)
    exact (Tables.run messages past).tokens_isPrefix (first ▸ tables)
  have second : history (past ++ events ++ events) = history (past ++ events) ++ again := by
    rw [history_append_stage messages (past ++ events) uncleared, once_eq, stage]
  have moreTables := Tables.run messages (past ++ events ++ events)
  have moreTracks := Tracks.run messages (past ++ events ++ events)
  rw [second, twice_eq] at moreTables moreTracks
  have repeated : again ⊆ history (past ++ events) := first ▸ List.subset_append_right _ _
  exact repeated_of_tables good tables tracks slotOnce moreTables moreTracks repeated

end Recorder

end DebugSymbols
