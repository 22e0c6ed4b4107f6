import DebugSymbols.Proofs.Recorder.Placeless
import DebugSymbols.Proofs.Recorder.Steering
/-!
# Labels and data in another order

Labels and data that come one behind the other all go into the same module, and
either all of them are recorded or none is.  In another order, or given more
often, they fill the tables of that module in another order and with other
places but with the same labels and data, and nothing else depends on them.
-/

namespace DebugSymbols

/-! ## Stretches of labels and data -/

/-- Events that declare labels and data only. -/
def Entries (events : List Event) : Prop :=
  ∀ event ∈ events, event.isEntry = true

section Entries

variable {events : List Event}

theorem course_of_entries (entries : Entries events) : course events = [] :=
  List.filterMap_eq_nil_iff.2 fun event member => Event.steering?_of_isEntry (entries event member)

theorem Stage.after_of_isEntry (stage : Stage) {event : Event} (entry : event.isEntry = true) :
    stage.after event = stage := by
  cases event
  case addLabel | addData => rfl
  all_goals cases entry

theorem Stage.run_of_entries (stage : Stage) (entries : Entries events) :
    stage.run events = stage := by
  induction events with
  | nil => rfl
  | cons event rest ih =>
      obtain ⟨entry, more⟩ := List.forall_mem_cons.1 entries
      exact (congrArg (Stage.run · rest) (stage.after_of_isEntry entry)).trans (ih more)

/-- Labels and data come at one stage. -/
theorem moments_of_entries (stage : Stage) (entries : Entries events) :
    moments stage events = events.map fun event => ⟨stage, event⟩ := by
  induction events with
  | nil => rfl
  | cons event rest ih =>
      obtain ⟨entry, more⟩ := List.forall_mem_cons.1 entries
      rw [moments, stage.after_of_isEntry entry, ih more, List.map_cons]

/-- The history with a stretch of labels and data. -/
theorem history_stretch (past : List Event) (entries : Entries events) {later : List Event}
    (uncleared : .clear ∉ later) :
    history (past ++ events ++ later) =
      history past ++ (events.map fun event => ⟨Stage.run {} past, event⟩) ++
        moments (Stage.run {} past) later := by
  have kept : .clear ∉ events := fun member => nomatch entries .clear member
  rw [history_append _ uncleared, history_append past kept, moments_of_entries _ entries,
    Stage.run_append, Stage.run_of_entries _ entries]

end Entries

namespace Recorder

/-! ## The same labels and data -/

variable {past again : List Moment} {first second : Recorder}

/-- A table tells what has been and not when. -/
theorem eraseDups_filterMap_perm {α : Type} [DecidableEq α] (told : Moment → Option α)
    (same : ∀ moment, moment ∈ past ↔ moment ∈ again) :
    (past.filterMap told).eraseDups.Perm (again.filterMap told).eraseDups := by
  refine Table.eraseDups_perm fun item => ?_
  rw [List.mem_filterMap, List.mem_filterMap]
  exact exists_congr fun moment => and_congr_left fun _ => same moment

/-- A stretch of labels and data may be replaced by one with the same labels and data. -/
theorem forall₂_reordered (messages : List Message) (past : List Event)
    {stretch other later : List Event} (entries : Entries stretch) (others : Entries other)
    (same : ∀ event, event ∈ stretch ↔ event ∈ other) (uncleared : .clear ∉ later) :
    List.Forall₂ SymbolFile.Reordered ((fresh messages).run (past ++ stretch ++ later)).modules
      ((fresh messages).run (past ++ other ++ later)).modules := by
  have good := (WellFormed.fresh messages).run (past ++ stretch ++ later)
  have courses : course (past ++ stretch ++ later) = course (past ++ other ++ later) := by
    simp only [course_append, course_of_entries entries, course_of_entries others]
  have history_same : ∀ moment, moment ∈ history (past ++ stretch ++ later) ↔
      moment ∈ history (past ++ other ++ later) := by
    intro moment
    rw [history_stretch past entries uncleared, history_stretch past others uncleared]
    simp only [List.mem_append, List.mem_map, same]
  have tables := Tables.run messages (past ++ stretch ++ later)
  have tablesOther := Tables.run messages (past ++ other ++ later)
  refine forall₂_modules good.tokens_nodup (tokens_eq_of_course courses).symm fun token => ?_
  exact
    { symbols := by
        rw [tables.symbols, tablesOther.symbols]
        exact eraseDups_filterMap_perm _ history_same
      data := by
        rw [tables.data, tablesOther.data]
        exact eraseDups_filterMap_perm _ history_same
      functions := functions_moduleAt_of_course courses token }

/-! ## Leaving places out -/

theorem course_map_placeless (events : List Event) :
    course (events.map Event.placeless) = course events := by
  rw [course, List.filterMap_map]
  refine List.filterMap_congr fun event _ => ?_
  cases event
  all_goals rfl

/-- What a module exports is the same with and without places. -/
theorem forall₂_reordered_placeless :
    List.Forall₂ SymbolFile.Reordered first.placeless.modules second.placeless.modules ↔
      List.Forall₂ SymbolFile.Reordered first.modules second.modules := by
  rw [placeless, placeless, List.forall₂_map_left_iff, List.forall₂_map_right_iff]
  constructor
  · exact List.Forall₂.imp fun _ _ same => ⟨same.symbols, same.data, same.functions⟩
  · exact List.Forall₂.imp fun _ _ same => ⟨same.symbols, same.data, same.functions⟩

theorem clear_mem_of_mem_map_placeless {events : List Event}
    (member : .clear ∈ events.map Event.placeless) : .clear ∈ events := by
  obtain ⟨event, standing, same⟩ := List.mem_map.1 member
  cases event
  case clear => exact standing
  all_goals cases same

/-! ## Runs that differ in a stretch -/

section Stretch

variable {events others earlier stretch other later : List Event}

/-- Labels and data have no part in the course of a run. -/
theorem course_eq_of_stretch (split : events.map Event.placeless = earlier ++ stretch ++ later)
    (splitOther : others.map Event.placeless = earlier ++ other ++ later)
    (entries : Entries stretch) (entriesOther : Entries other) : course events = course others := by
  rw [← course_map_placeless events, ← course_map_placeless others, split, splitOther]
  simp only [course_append, course_of_entries entries, course_of_entries entriesOther]

/-- Runs that are the same up to places and to a stretch, in which labels and data are given in
another order or more often, fill the modules with the same labels and data. -/
theorem forall₂_reordered_run (messages : List Message) (past : List Event)
    (split : events.map Event.placeless = earlier ++ stretch ++ later)
    (splitOther : others.map Event.placeless = earlier ++ other ++ later)
    (entries : Entries stretch) (entriesOther : Entries other)
    (same : ∀ event, event ∈ stretch ↔ event ∈ other) (uncleared : .clear ∉ events) :
    List.Forall₂ SymbolFile.Reordered (((fresh messages).run past).run events).modules
      (((fresh messages).run past).run others).modules := by
  have kept : .clear ∉ later := by
    intro member
    refine uncleared (clear_mem_of_mem_map_placeless ?_)
    exact split ▸ List.mem_append_right _ member
  have placeless : ∀ events, (((fresh messages).run past).run events).placeless =
      (((fresh messages).run past).run (events.map Event.placeless)).placeless := by
    intro events
    refine placeless_run_congr rfl ?_
    rw [List.map_map]
    refine List.map_congr_left fun event _ => ?_
    cases event
    all_goals rfl
  have reordered := forall₂_reordered messages (past ++ earlier) entries entriesOther same kept
  simp only [List.append_assoc] at split splitOther reordered
  rw [run_append, ← split, run_append, ← splitOther] at reordered
  rw [← forall₂_reordered_placeless, placeless events, placeless others]
  exact forall₂_reordered_placeless.2 reordered

end Stretch

end Recorder

end DebugSymbols
