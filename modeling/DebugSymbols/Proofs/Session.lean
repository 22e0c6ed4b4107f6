import DebugSymbols.Proofs.FileTree
import DebugSymbols.Proofs.Recorder.Control
import DebugSymbols.Proofs.Trace.Moves
/-!
# What a run saves

A run fails only if its settings file cannot be used or its symbol file cannot
be written in full, whatever reads the settings file.  Otherwise the output
path holds the symbols of all traces that open, each up to the first line that
cannot be read, and whatever is wrong with traces or commands is passed over.
-/

namespace DebugSymbols

namespace Recorder

variable {recorder : Recorder}

/-- No event of a trace changes where and in which version a recorder saves. -/
theorem target_step {event : Event} (traced : event.isTraced = true) :
    (recorder.step event).2.target = recorder.target := by
  cases event
  case setEnabled enabled => rfl
  case startModule token => exact recorder.target_startModule token
  case endModule token => exact recorder.target_endModule token
  case addLabel place address name => exact recorder.target_declare place _
  case addData place address size kind => exact recorder.target_declare place _
  case startFunction place address => exact recorder.target_startFunction place address
  case endFunction address => exact recorder.target_endFunction address
  all_goals cases traced

theorem target_run {events : List Event} (traced : ∀ event ∈ events, event.isTraced = true) :
    (recorder.run events).target = recorder.target := by
  induction events generalizing recorder with
  | nil => rfl
  | cons event rest ih =>
      obtain ⟨here, later⟩ := List.forall_mem_cons.1 traced
      exact (ih later).trans (target_step here)

end Recorder

namespace Session

open Trace (Move Playback TraceFile commandsOn moves)

variable {reader : Settings.Reader} {arguments : Arguments} {tree : FileTree}
  {draft : Settings.Draft}

/-! ## What a run goes by -/

/-- What the settings file of a run gives, which is nothing if it has none. -/
def loaded? (reader : Settings.Reader) (arguments : Arguments) (tree : FileTree) :
    Option Settings.Draft :=
  match arguments.config with
  | none => some {}
  | some path => (tree.open? path).bind reader

def outputPath (arguments : Arguments) (draft : Settings.Draft) : String :=
  (arguments.output <|> draft.output.join).getD "main.sym"

def outputVersion (arguments : Arguments) (draft : Settings.Draft) : UInt32 :=
  arguments.version.getD (draft.version.getD 1)

/-- The traces of a run that open. -/
def traceFiles (arguments : Arguments) (tree : FileTree) : List TraceFile :=
  arguments.inputs.filterMap fun path =>
    (tree.open? path).map fun stream => ⟨path, commandsOn stream.readable⟩

def start (arguments : Arguments) (draft : Settings.Draft) : Recorder :=
  { output := some (outputPath arguments draft)
    version := outputVersion arguments draft
    enabled := draft.enabled.getD true }

/-- The recorder of a run after all its traces in order. -/
def recorded (arguments : Arguments) (tree : FileTree) (draft : Settings.Draft) : Recorder :=
  let playback : Playback := ⟨{}, start arguments draft⟩
  (playback.moveAll (moves (traceFiles arguments tree))).recorder

def symbolFile (arguments : Arguments) (tree : FileTree) (draft : Settings.Draft) : List UInt8 :=
  Text.encode (SymbolFile.text (SymbolFile.entries (outputVersion arguments draft)
    (recorded arguments tree draft).modules))

/-! ## Settings -/

theorem toOption_load (reader : Settings.Reader) (path : String) (stream : Option Text.Stream) :
    (reader.load path stream).toOption = (stream.bind reader).map Settings.Draft.complete := by
  cases stream with
  | none => rfl
  | some stream =>
      rw [Settings.Reader.load, Option.bind_some]
      cases reader stream with
      | none => rfl
      | some draft => rfl

theorem effective_complete (arguments : Arguments) (draft : Settings.Draft) :
    effective arguments draft.complete =
      ⟨some (outputPath arguments draft), outputVersion arguments draft,
        draft.enabled.getD true⟩ := by
  have joined : draft.output.getD none = draft.output.join := by cases draft.output <;> rfl
  simp only [effective, Settings.Draft.complete, joined, outputPath, outputVersion, defaultOutput]

/-- The settings of a run are those of the command line and of the settings file, which stops the
run if it cannot be opened or read. -/
theorem toOption_settings (reader : Settings.Reader) (arguments : Arguments) (tree : FileTree) :
    (settings reader arguments (arguments.config.bind tree.open?)).toOption =
      (loaded? reader arguments tree).map fun draft =>
        ⟨some (outputPath arguments draft), outputVersion arguments draft,
          draft.enabled.getD true⟩ := by
  simp only [← effective_complete]
  rw [settings, loaded?]
  cases arguments.config with
  | none => rfl
  | some path =>
      have read := toOption_load reader path (tree.open? path)
      simp only [Option.bind_some]
      cases told : reader.load path (tree.open? path) with
      | error fault =>
          rw [told] at read
          have absent : (tree.open? path).bind reader = none := Option.map_eq_none_iff.1 read.symm
          rw [absent]
          rfl
      | ok loaded =>
          rw [told] at read
          obtain ⟨draft, found, rfl⟩ := Option.map_eq_some_iff.1 read.symm
          rw [found]
          rfl

/-! ## Traces -/

theorem openedFiles_inputs (arguments : Arguments) (tree : FileTree) :
    Trace.openedFiles (arguments.inputs.map fun path => (path, tree.open? path)) =
      traceFiles arguments tree := by
  rw [Trace.openedFiles, List.filterMap_map, traceFiles]
  refine List.filterMap_congr fun path _ => ?_
  simp only [Function.comp_apply, Trace.numberedCommands_lines]

/-- The recorder of a run before it saves. -/
theorem recorder_record (arguments : Arguments) (tree : FileTree) (draft : Settings.Draft) :
    (record ⟨some (outputPath arguments draft), outputVersion arguments draft,
      draft.enabled.getD true⟩
        (arguments.inputs.map fun path => (path, tree.open? path))).2.recorder =
          recorded arguments tree draft := by
  rw [record, recorded, ← openedFiles_inputs, ← Trace.replayTraces_eq_moveAll]
  rfl

/-- What a run records is saved where and in the version that it goes by. -/
theorem target_recorded (arguments : Arguments) (tree : FileTree) (draft : Settings.Draft) :
    (recorded arguments tree draft).target =
      (some (outputPath arguments draft), outputVersion arguments draft) := by
  rw [recorded, Playback.moveAll_moves]
  exact Recorder.target_run fun event => Trace.Replay.isTraced_of_mem_events

/-! ## Runs -/

theorem exitCode_conclude (dump : Bool) (playback : Playback) (result : SaveResult)
    (after : Recorder) :
    (conclude dump playback result after).2 = if result.fault = none then 0 else 1 := by
  rw [conclude]
  cases result.fault with
  | some fault => rfl
  | none =>
      cases dump with
      | false => rfl
      | true => rfl

/-- A run whose settings cannot be had does nothing. -/
theorem run_of_not_loaded (unusable : loaded? reader arguments tree = none) :
    (run reader arguments tree).exitCode = 1 ∧ (run reader arguments tree).tree = tree := by
  have refused := toOption_settings reader arguments tree
  rw [unusable, Option.map_none] at refused
  rw [run]
  cases told : settings reader arguments (arguments.config.bind tree.open?) with
  | error printed => exact ⟨rfl, rfl⟩
  | ok settings =>
      rw [told] at refused
      cases refused

/-- A run whose settings can be had saves what it records. -/
theorem run_of_loaded (usable : loaded? reader arguments tree = some draft) :
    (run reader arguments tree).exitCode =
        (if (tree.save (recorded arguments tree draft)).1.fault = none then 0 else 1) ∧
      (run reader arguments tree).tree = (tree.save (recorded arguments tree draft)).2.2 := by
  have had := toOption_settings reader arguments tree
  rw [usable, Option.map_some] at had
  rw [run]
  cases told : settings reader arguments (arguments.config.bind tree.open?) with
  | error printed =>
      rw [told] at had
      cases had
  | ok settings =>
      rw [told] at had
      cases had
      constructor
      · simp only [recorder_record]
        exact exitCode_conclude _ _ _ _
      · simp only [recorder_record]

def Written (arguments : Arguments) (tree : FileTree) (draft : Settings.Draft) : Prop :=
  tree.Takes (outputPath arguments draft) (symbolFile arguments tree draft)

theorem output_recorded (arguments : Arguments) (tree : FileTree) (draft : Settings.Draft) :
    (recorded arguments tree draft).output = some (outputPath arguments draft) :=
  congrArg Prod.fst (target_recorded arguments tree draft)

theorem encode_text_recorded (arguments : Arguments) (tree : FileTree) (draft : Settings.Draft) :
    Text.encode (SymbolFile.text (recorded arguments tree draft).entries) =
      symbolFile arguments tree draft := by
  have version : (recorded arguments tree draft).version = outputVersion arguments draft :=
    congrArg Prod.snd (target_recorded arguments tree draft)
  rw [Recorder.entries, symbolFile, version]

theorem run_of_written (usable : loaded? reader arguments tree = some draft)
    (written : Written arguments tree draft) :
    (run reader arguments tree).exitCode = 0 ∧
      (tree.IsDevice (outputPath arguments draft) → (run reader arguments tree).tree = tree) ∧
      (¬tree.IsDevice (outputPath arguments draft) →
        (run reader arguments tree).tree.content? (outputPath arguments draft) =
          some (symbolFile arguments tree draft)) ∧
      ∀ path, tree.locate path ≠ tree.locate (outputPath arguments draft) →
        (run reader arguments tree).tree.look? path = tree.look? path := by
  obtain ⟨code, after⟩ := run_of_loaded usable
  rw [Written, ← encode_text_recorded] at written
  obtain ⟨fine, device, file, others⟩ :=
    FileTree.save_of_takes (output_recorded arguments tree draft) written
  rw [encode_text_recorded] at file
  rw [code, if_pos fine, after]
  exact ⟨rfl, device, file, others⟩

theorem exitCode_of_not_written (usable : loaded? reader arguments tree = some draft)
    (unwritten : ¬Written arguments tree draft) : (run reader arguments tree).exitCode = 1 := by
  rw [Written, ← encode_text_recorded] at unwritten
  rw [(run_of_loaded usable).1, if_neg (FileTree.save_of_not_takes
    (output_recorded arguments tree draft) unwritten)]

/-- A run fails just when its settings file cannot be used or its symbol file cannot be written in
full.  Otherwise, unless the output path leads to a device, which takes the octets and keeps none,
that path holds the symbols of all traces that open. -/
theorem run_saves_recording (reader : Settings.Reader) (arguments : Arguments) (tree : FileTree) :
    let outcome := run reader arguments tree
    (outcome.exitCode = 1 ↔
        loaded? reader arguments tree = none ∨
          ∃ draft, loaded? reader arguments tree = some draft ∧ ¬Written arguments tree draft) ∧
      (outcome.exitCode ≠ 1 → outcome.exitCode = 0) ∧
      (loaded? reader arguments tree = none → outcome.tree = tree) ∧
      ∀ draft, loaded? reader arguments tree = some draft → outcome.exitCode = 0 →
        (tree.IsDevice (outputPath arguments draft) → outcome.tree = tree) ∧
          (¬tree.IsDevice (outputPath arguments draft) →
            outcome.tree.content? (outputPath arguments draft) =
              some (symbolFile arguments tree draft)) ∧
          ∀ path, tree.locate path ≠ tree.locate (outputPath arguments draft) →
            outcome.tree.look? path = tree.look? path := by
  intro outcome
  cases usable : loaded? reader arguments tree with
  | none =>
      obtain ⟨code, after⟩ := run_of_not_loaded usable
      exact ⟨⟨fun _ => Or.inl rfl, fun _ => code⟩, fun other => absurd code other, fun _ => after,
        nofun⟩
  | some draft =>
      by_cases written : Written arguments tree draft
      · obtain ⟨code, saved⟩ := run_of_written usable written
        have fine : outcome.exitCode = 0 := code
        refine ⟨⟨fun failed => ?_, ?_⟩, fun _ => fine, nofun, ?_⟩
        · rw [fine] at failed
          cases failed
        · rintro (impossible | ⟨other, same, unwritten⟩)
          · cases impossible
          · cases same
            exact absurd written unwritten
        · intro other same _
          cases same
          exact saved
      · have code := exitCode_of_not_written usable written
        refine ⟨⟨fun _ => Or.inr ⟨draft, rfl, written⟩, fun _ => code⟩, ?_, nofun, ?_⟩
        · intro other
          exact absurd code other
        · intro _ _ fine
          exact absurd (fine.symm.trans code) (by decide)

/-- A device that takes a whole symbol file keeps nothing of it, though the run has not failed.  No
settings file is asked for, so that the reader does not matter. -/
theorem device_keeps_nothing :
    let reader : Settings.Reader := fun _ => none
    let arguments : Arguments := { inputs := ["t"], output := some "n" }
    let tree : FileTree :=
      { nodes := [([], .directory), (["n"], .device none),
          (["t"], .file (Text.encode "label 0x10 a\n"))] }
    loaded? reader arguments tree = some {} ∧ outputPath arguments {} = "n" ∧
      (run reader arguments tree).exitCode = 0 ∧
      (run reader arguments tree).tree.content? "n" ≠ some (symbolFile arguments tree {}) := by
  intro reader arguments tree
  have located : tree.locate "n" = some ["n"] := by decide
  have looked : tree.look? "n" = some (.device none) := by
    rw [FileTree.look?, located]
    rfl
  have usable : loaded? reader arguments tree = some {} := rfl
  have created : tree.create? "n" = some {} := by
    rw [FileTree.create?, located]
    rfl
  have written : Written arguments tree {} :=
    FileTree.takes_iff.2 ⟨{}, created, Sink.fits_of_room_none rfl _, rfl⟩
  obtain ⟨code, device, _⟩ := run_of_written usable written
  have empty : tree.content? "n" = some [] := by
    rw [FileTree.content?, looked]
    rfl
  refine ⟨usable, rfl, code, ?_⟩
  rw [device ⟨none, looked⟩, empty]
  intro same
  exact SymbolFile.encode_text_ne_nil _ (Option.some.inj same).symm

end Session

end DebugSymbols
