import DebugSymbols.Proofs.Recorder.Tables
import DebugSymbols.Proofs.Text.Words
import DebugSymbols.Proofs.Trace.Events
/-!
# Where the names of labels come from

A path or a name in a command is a word of its line.  Every label that a replay
records is named by such a word, and so no name has a blank, whatever stands in
the traces.
-/

namespace DebugSymbols.Trace

/-! ## Words in commands -/

theorem mem_of_argument {arguments : List String} {index : Nat} {word : String}
    (found : argument arguments index = .ok word) : word ∈ arguments := by
  unfold argument at found
  split at found
  case h_1 other standing =>
    cases found
    exact List.mem_of_getElem? standing
  case h_2 => cases found

theorem exists_of_bind {α β : Type} {first : Except Problem α} {next : α → Except Problem β}
    {value : β} (made : first.bind next = .ok value) :
    ∃ middle, first = .ok middle ∧ next middle = .ok value := by
  cases first with
  | error problem => cases made
  | ok middle => exact ⟨middle, rfl, made⟩

namespace Command

def word? : Command → Option String
  | .file path => some path
  | .startModule name | .endModule name | .label _ name => some name
  | _ => none

theorem mem_of_ofWords {keyword word : String} {arguments : List String} {command : Command}
    (made : ofWords keyword arguments = .ok command) (told : command.word? = some word) :
    word ∈ arguments := by
  unfold ofWords at made
  split at made
  -- A path or the name of a module is the first argument.
  case h_1 | h_3 | h_4 =>
    obtain ⟨first, found, same⟩ := exists_of_bind made
    cases same
    cases told
    exact mem_of_argument found
  case h_5 =>
    obtain ⟨address, _, rest⟩ := exists_of_bind made
    obtain ⟨name, found, same⟩ := exists_of_bind rest
    cases same
    cases told
    exact mem_of_argument found
  case h_6 =>
    obtain ⟨address, _, rest⟩ := exists_of_bind made
    obtain ⟨size, _, rest⟩ := exists_of_bind rest
    obtain ⟨kind, _, same⟩ := exists_of_bind rest
    cases same
    cases told
  case h_2 | h_7 | h_8 =>
    obtain ⟨value, _, same⟩ := exists_of_bind made
    cases same
    cases told
  case h_9 | h_10 =>
    cases made
    cases told
  case h_11 => cases made

/-- What a command brings up is a word of its line. -/
theorem mem_lineWords_of_read {line word : String} {command : Command}
    (accepted : read line = .ok (some command)) (told : command.word? = some word) :
    word ∈ lineWords line := by
  unfold read at accepted
  split at accepted
  case h_1 => cases accepted
  case h_2 keyword arguments cut =>
    cases made : ofWords keyword arguments with
    | error problem =>
        rw [made] at accepted
        cases accepted
    | ok other =>
        rw [made] at accepted
        cases accepted
        rw [cut]
        exact List.mem_cons_of_mem _ (mem_of_ofWords made told)

end Command

theorem isBlank_of_mem_lineWords {line word : String} (member : word ∈ lineWords line) :
    ∀ character ∈ word.toList, Text.isBlank character = false := by
  obtain ⟨characters, cut, rfl⟩ := List.mem_map.1 member
  rw [String.toList_ofList]
  exact fun character => Text.isBlank_of_mem_words cut

/-! ## Labels in replays -/

theorem exists_read_of_mem_commandsOn {lines : List String} {numbered : Nat × Command}
    (member : numbered ∈ commandsOn lines) :
    ∃ line ∈ lines, Command.read line = .ok (some numbered.2) := by
  obtain ⟨⟨line, index⟩, standing, told⟩ := List.mem_filterMap.1 member
  refine ⟨line, List.fst_mem_of_mem_zipIdx standing, ?_⟩
  unfold commandOn? at told
  split at told
  case h_1 command accepted =>
    cases told
    exact accepted
  case h_2 => cases told

theorem eq_label_of_event? {replay : Replay} {command : Command} {place : Position}
    {address : Int64} {name : String}
    (asked : replay.event? command = some (.addLabel place address name)) :
    command = .label address name := by
  cases command
  case label => cases asked; rfl
  all_goals cases asked

/-- A label that traces ask for has its command on a line of one of them. -/
theorem exists_read_of_addLabel {replay : Replay} {traces : List (String × Option Text.Stream)}
    {place : Position} {address : Int64} {name : String}
    (member : .addLabel place address name ∈ replay.events (openedFiles traces)) :
    ∃ line, Command.read line = .ok (some (.label address name)) := by
  obtain ⟨state, file, opened, numbered, among, asked⟩ := Replay.exists_of_mem_events member
  obtain ⟨trace, _, told⟩ := List.mem_filterMap.1 opened
  obtain ⟨stream, _, rfl⟩ := Option.map_eq_some_iff.1 told
  rw [numberedCommands_lines] at among
  obtain ⟨line, _, accepted⟩ := exists_read_of_mem_commandsOn among
  exact ⟨line, eq_label_of_event? asked ▸ accepted⟩

/-- No name of a label that a replay records has a blank. -/
theorem isBlank_of_replayTraces (settings : Settings)
    (traces : List (String × Option Text.Stream)) {module : Module}
    (standing : module ∈
      (Session.replayTraces (Session.initial settings) traces).2.recorder.modules)
    {symbol : Symbol} (member : symbol ∈ module.symbols) :
    ∀ character ∈ symbol.name.toList, Text.isBlank character = false := by
  let events := ({} : Replay).events (openedFiles traces)
  have whole : (Session.replayTraces (Session.initial settings) traces).2.recorder =
      (Recorder.fresh []).run (.configure settings :: events) := by
    rw [replayTraces_snd]
    rfl
  rw [whole] at standing
  obtain ⟨place, happened⟩ := Recorder.exists_addLabel_of_mem_symbols standing member
  rcases List.mem_cons.1 happened with impossible | replayed
  · cases impossible
  · obtain ⟨line, accepted⟩ := exists_read_of_addLabel replayed
    exact isBlank_of_mem_lineWords (Command.mem_lineWords_of_read accepted rfl)

end DebugSymbols.Trace
