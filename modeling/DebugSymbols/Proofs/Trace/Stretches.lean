import DebugSymbols.Proofs.Recorder.Rearrangement
import DebugSymbols.Proofs.Trace.Placeless
/-!
# Traces with labels and data in another order

A stretch of a trace that holds labels and data only may be given in another
order and with repetitions.  The tables and the records then differ, and so may
what the commands behind it add to them, but the symbol file does not.
-/

namespace DebugSymbols.Trace

def Command.declared? : Command → Option Event
  | .label address name => some (.addLabel {} address name)
  | .data address size kind => some (.addData {} address size kind)
  | _ => none

def Command.isEntry (command : Command) : Bool :=
  command.declared?.isSome

namespace Replay

/-- A declaration is asked for as it stands, and it issues no token. -/
theorem event?_of_isEntry {command : Command} (entry : command.isEntry = true)
    (tokens : FileTokens) :
    ((nowhere tokens).apply command).event? command = command.declared? ∧
      ((nowhere tokens).apply command).tokens = tokens := by
  cases command
  case label | data => exact ⟨rfl, rfl⟩
  all_goals cases entry

variable {commands : List Command}

/-- What a stretch of declarations asks for. -/
theorem asked_of_entries (entries : ∀ command ∈ commands, command.isEntry = true)
    (tokens : FileTokens) :
    asked tokens commands = commands.filterMap Command.declared? ∧
      tokensAfter tokens commands = tokens := by
  induction commands with
  | nil => exact ⟨rfl, rfl⟩
  | cons command rest ih =>
      obtain ⟨entry, more⟩ := List.forall_mem_cons.1 entries
      obtain ⟨event, same⟩ := event?_of_isEntry entry tokens
      obtain ⟨asked_rest, after_rest⟩ := ih more
      constructor
      · rw [asked, event, same, asked_rest, List.filterMap_cons]
        cases command.declared? with
        | none => rfl
        | some event => rfl
      · exact (congrArg (tokensAfter · rest) same).trans after_rest

theorem entries_filterMap_declared (commands : List Command) :
    Entries (commands.filterMap Command.declared?) := by
  intro event member
  obtain ⟨command, _, declared⟩ := List.mem_filterMap.1 member
  cases command
  case label | data => cases declared; rfl
  all_goals cases declared

/-- The events of traces with a stretch of declarations in them. -/
theorem map_placeless_events_of_stretch (replay : Replay) {files : List TraceFile}
    {earlier stretch later : List Command}
    (commands : recordingCommands files = earlier ++ stretch ++ later)
    (entries : ∀ command ∈ stretch, command.isEntry = true) :
    (replay.events files).map Event.placeless =
      asked replay.tokens earlier ++ stretch.filterMap Command.declared? ++
        asked (tokensAfter replay.tokens earlier) later := by
  obtain ⟨here, after⟩ := asked_of_entries entries (tokensAfter replay.tokens earlier)
  have further : tokensAfter replay.tokens (earlier ++ stretch) =
      tokensAfter replay.tokens earlier :=
    (List.foldl_append).trans after
  rw [map_placeless_events, commands, asked_append, asked_append, here, further]

end Replay

/-- Traces that differ only in a stretch of labels and data, in which the same ones are declared in
another order or more often, wherever it stands, lead to the same modules, functions and reports
and to the same symbol file. -/
theorem replay_ignores_order (messages : List Message) (past : List Event) (replay : Replay)
    {traces others : List (String × Option Text.Stream)}
    {earlier stretch other later : List Command}
    (commands : recordingCommands (openedFiles traces) = earlier ++ stretch ++ later)
    (commandsOther : recordingCommands (openedFiles others) = earlier ++ other ++ later)
    (entries : ∀ command ∈ stretch, command.isEntry = true)
    (same : ∀ command, command ∈ stretch ↔ command ∈ other) :
    let start : Playback := ⟨replay, (Recorder.fresh messages).run past⟩
    let one := (Session.replayTraces start traces).2.recorder
    let two := (Session.replayTraces start others).2.recorder
    Recorder.SameFrame one two ∧ one.openFunction? = two.openFunction? ∧
      one.messages = two.messages ∧
      List.Forall₂ SymbolFile.Reordered one.modules two.modules ∧
      ∀ version sink,
        SymbolFile.writeTo sink (SymbolFile.entries version one.modules) =
          SymbolFile.writeTo sink (SymbolFile.entries version two.modules) := by
  intro start one two
  let events := replay.events (openedFiles traces)
  let eventsOther := replay.events (openedFiles others)
  have entriesOther : ∀ command ∈ other, command.isEntry = true :=
    fun command member => entries command ((same command).2 member)
  have sameEvents : ∀ event, event ∈ stretch.filterMap Command.declared? ↔
      event ∈ other.filterMap Command.declared? := by
    intro event
    rw [List.mem_filterMap, List.mem_filterMap]
    exact exists_congr fun command => and_congr_left fun _ => same command
  have split := replay.map_placeless_events_of_stretch commands entries
  have splitOther := replay.map_placeless_events_of_stretch commandsOther entriesOther
  have declared := Replay.entries_filterMap_declared stretch
  have declaredOther := Replay.entries_filterMap_declared other
  have courses : course events = course eventsOther :=
    Recorder.course_eq_of_stretch split splitOther declared declaredOther
  have one_eq : one = ((Recorder.fresh messages).run past).run events :=
    congrArg Playback.recorder (replayTraces_snd start traces)
  have two_eq : two = ((Recorder.fresh messages).run past).run eventsOther :=
    congrArg Playback.recorder (replayTraces_snd start others)
  have frame : Recorder.SameFrame one two := by
    rw [one_eq, two_eq, ← Recorder.run_append, ← Recorder.run_append]
    refine Recorder.sameFrame_of_course ?_
    rw [course_append, course_append, courses]
  have modules : List.Forall₂ SymbolFile.Reordered one.modules two.modules := by
    rw [one_eq, two_eq]
    exact Recorder.forall₂_reordered_run messages past split splitOther declared declaredOther
      sameEvents (replay.clear_not_mem_events _)
  refine ⟨frame, frame.openFunction?_eq, ?_, modules, fun version sink => ?_⟩
  · have good := (Recorder.WellFormed.fresh messages).run past
    rw [one_eq, two_eq]
    exact Recorder.messages_eq_of_course good (replay.save_not_mem_events _)
      (replay.save_not_mem_events _) courses
  · have exported := modules.imp fun _ _ here => here.sameExport
    rw [SymbolFile.entries_eq_of_forall₂ exported]

/-- The same labels and data in a function, the other way round and one of them twice.  In the
second trace the label makes the record for the address that both declare. -/
theorem replay_ignores_order_of_two_traces :
    let stretch : List Command := [.data 8 4 .word, .label 8 "a", .label 9 "b"]
    let other : List Command := [.label 9 "b", .label 8 "a", .data 8 4 .word, .label 9 "b"]
    let traces :=
      [("t", some ⟨Text.encode "func 4\ndata 8 4 dbl\nlabel 8 a\nlabel 9 b\nendfunc 9", false⟩)]
    let others :=
      [("u", some ⟨Text.encode "func 4\nlabel 9 b\nlabel 8 a\n", false⟩),
        ("v", some ⟨Text.encode "data 8 4 dbl\nlabel 9 b # again\nendfunc 9", false⟩)]
    let start : Playback := ⟨{}, (Recorder.fresh []).run []⟩
    let one := (Session.replayTraces start traces).2.recorder
    let two := (Session.replayTraces start others).2.recorder
    recordingCommands (openedFiles traces) = [.startFunction 4] ++ stretch ++ [.endFunction 9] ∧
      recordingCommands (openedFiles others) = [.startFunction 4] ++ other ++ [.endFunction 9] ∧
      (∀ command ∈ stretch, command.isEntry = true) ∧
      (∀ command, command ∈ stretch ↔ command ∈ other) ∧ Recorder.SameFrame one two ∧
      SymbolFile.writeTo {} (SymbolFile.entries 2 one.modules) =
        SymbolFile.writeTo {} (SymbolFile.entries 2 two.modules) := by
  intro stretch other traces others start one two
  have commands : recordingCommands (openedFiles traces) =
      [.startFunction 4] ++ stretch ++ [.endFunction 9] := by
    decide +kernel
  have commandsOther : recordingCommands (openedFiles others) =
      [.startFunction 4] ++ other ++ [.endFunction 9] := by
    decide +kernel
  have entries : ∀ command ∈ stretch, command.isEntry = true := by decide
  have same : ∀ command, command ∈ stretch ↔ command ∈ other := by
    intro command
    simp only [stretch, other, List.mem_cons, List.not_mem_nil, or_false]
    tauto
  obtain ⟨frame, _, _, _, written⟩ :=
    replay_ignores_order [] [] {} commands commandsOther entries same
  exact ⟨commands, commandsOther, entries, same, frame, written 2 {}⟩

end DebugSymbols.Trace
