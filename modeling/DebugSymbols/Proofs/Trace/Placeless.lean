import DebugSymbols.Proofs.Recorder.Placeless
import DebugSymbols.Proofs.Trace.Events
/-!
# Replaying without places

What a replay asks of the recorder depends on the tokens issued so far and on
the commands that do more than name a place.  The lines and files on which they
stand decide the positions only, and these are not exported.
-/

namespace DebugSymbols.Trace

def Command.isPlace : Command → Bool
  | .file _ | .line _ => true
  | _ => false

/-- The commands of trace files in order, apart from those that only tell a place. -/
def recordingCommands (files : List TraceFile) : List Command :=
  (files.flatMap fun file => file.commands.map Prod.snd).filter fun command => !command.isPlace

namespace Replay

def nowhere (tokens : FileTokens) : Replay :=
  { tokens := tokens }

def tokensAfter (tokens : FileTokens) (commands : List Command) : FileTokens :=
  commands.foldl (fun tokens command => ((nowhere tokens).apply command).tokens) tokens

/-- What some commands ask for if they stand nowhere. -/
def asked (tokens : FileTokens) : List Command → List Event
  | [] => []
  | command :: rest =>
      (((nowhere tokens).apply command).event? command).toList ++
        asked ((nowhere tokens).apply command).tokens rest

theorem asked_append (tokens : FileTokens) (first second : List Command) :
    asked tokens (first ++ second) =
      asked tokens first ++ asked (tokensAfter tokens first) second := by
  induction first generalizing tokens with
  | nil => rfl
  | cons command rest ih =>
      simp only [List.cons_append, asked, ih, List.append_assoc]
      rfl

/-- A command that only tells a place asks for nothing and issues no token. -/
theorem asked_filter (tokens : FileTokens) (commands : List Command) :
    asked tokens (commands.filter fun command => !command.isPlace) = asked tokens commands := by
  induction commands generalizing tokens with
  | nil => rfl
  | cons command rest ih =>
      cases command
      case file | line => exact ih tokens
      all_goals exact congrArg (_ ++ ·) (ih _)

theorem tokensAfter_filter (tokens : FileTokens) (commands : List Command) :
    tokensAfter tokens (commands.filter fun command => !command.isPlace) =
      tokensAfter tokens commands := by
  induction commands generalizing tokens with
  | nil => rfl
  | cons command rest ih =>
      cases command
      case file | line => exact ih tokens
      all_goals exact ih _

/-! ## One command -/

variable (replay : Replay)

theorem tokens_advance (index : Nat) (command : Command) :
    (replay.advance index command).tokens = ((nowhere replay.tokens).apply command).tokens := by
  cases command <;> simp [advance, apply, nowhere]

/-- The place of a command is in its event and nowhere else. -/
theorem map_placeless_event? (index : Nat) (command : Command) :
    ((replay.advance index command).event? command).map Event.placeless =
      ((nowhere replay.tokens).apply command).event? command := by
  cases command <;> simp [advance, apply, nowhere, event?, Event.placeless]

/-! ## Whole traces -/

theorem tokens_afterCommands (commands : List (Nat × Command)) :
    (replay.afterCommands commands).tokens = tokensAfter replay.tokens (commands.map Prod.snd) := by
  induction commands generalizing replay with
  | nil => rfl
  | cons numbered rest ih =>
      obtain ⟨index, command⟩ := numbered
      exact (ih (replay.advance index command)).trans
        (congrArg (tokensAfter · (rest.map Prod.snd)) (replay.tokens_advance index command))

theorem map_placeless_commandEvents (commands : List (Nat × Command)) :
    (replay.commandEvents commands).map Event.placeless =
      asked replay.tokens (commands.map Prod.snd) := by
  induction commands generalizing replay with
  | nil => rfl
  | cons numbered rest ih =>
      obtain ⟨index, command⟩ := numbered
      rw [commandEvents, List.map_append, ih, tokens_advance, ← Option.toList_map,
        map_placeless_event?]
      rfl

theorem tokens_afterFiles (files : List TraceFile) :
    (replay.afterFiles files).tokens = tokensAfter replay.tokens (recordingCommands files) := by
  rw [recordingCommands, tokensAfter_filter]
  induction files generalizing replay with
  | nil => rfl
  | cons file rest ih =>
      have here := tokens_afterCommands (replay.begin file.path) file.commands
      have begun : (replay.begin file.path).tokens = replay.tokens := rfl
      have further := ih (replay.afterFile file)
      rw [afterFile, here, begun] at further
      rw [List.flatMap_cons, tokensAfter, List.foldl_append]
      exact further

/-- Up to places, the events of traces follow from the tokens and the recording commands. -/
theorem map_placeless_events (files : List TraceFile) :
    (replay.events files).map Event.placeless = asked replay.tokens (recordingCommands files) := by
  rw [recordingCommands, asked_filter]
  induction files generalizing replay with
  | nil => rfl
  | cons file rest ih =>
      have here := map_placeless_commandEvents (replay.begin file.path) file.commands
      have tokens := tokens_afterCommands (replay.begin file.path) file.commands
      have begun : (replay.begin file.path).tokens = replay.tokens := rfl
      rw [begun] at here tokens
      rw [events, List.map_append, here, ih, List.flatMap_cons, asked_append, afterFile, tokens]

end Replay

/-- Traces with the same recording commands in the same order, on whatever lines of whatever files
they stand, lead to recorders that differ in places only, and hence to the same symbol file. -/
theorem replay_ignores_places (recorder : Recorder) {first second : Replay}
    (tokens : first.tokens = second.tokens) {traces others : List (String × Option Text.Stream)}
    (commands : recordingCommands (openedFiles traces) = recordingCommands (openedFiles others)) :
    let one := (Session.replayTraces ⟨first, recorder⟩ traces).2
    let other := (Session.replayTraces ⟨second, recorder⟩ others).2
    one.recorder.placeless = other.recorder.placeless ∧
      one.replay.tokens = other.replay.tokens ∧
      ∀ version sink,
        SymbolFile.writeTo sink (SymbolFile.entries version one.recorder.modules) =
          SymbolFile.writeTo sink (SymbolFile.entries version other.recorder.modules) := by
  intro one other
  have events : (first.events (openedFiles traces)).map Event.placeless =
      (second.events (openedFiles others)).map Event.placeless := by
    rw [Replay.map_placeless_events, Replay.map_placeless_events, tokens, commands]
  have recorders : one.recorder.placeless = other.recorder.placeless := by
    simp only [one, other, replayTraces_snd]
    exact Recorder.placeless_run_congr rfl events
  have issued : one.replay.tokens = other.replay.tokens := by
    simp only [one, other, replayTraces_snd, Replay.tokens_afterFiles, tokens, commands]
  refine ⟨recorders, issued, fun version sink => ?_⟩
  have modules := congrArg Recorder.modules recorders
  have entries := congrArg (SymbolFile.entries version) modules
  simp only [Recorder.placeless, Recorder.entries_map_placeless] at entries
  rw [entries]

/-- One file that names its source, and two that do not but have a comment, a line that is refused
and a carriage return instead. -/
theorem replay_ignores_places_of_two_files :
    let traces :=
      [("a.trace", some ⟨Text.encode "file a.asm\nline 7\nlabel 16 start\nfunc 16", false⟩)]
    let others :=
      [("b.trace", some ⟨Text.encode "# nothing\n\nlabel 0x10 start # here\r\n", false⟩),
        ("c.trace", none),
        ("d.trace", some ⟨Text.encode "label 0x10\nfunc 0b10000\n", false⟩)]
    recordingCommands (openedFiles traces) = recordingCommands (openedFiles others) ∧
      (Session.replayTraces {} traces).2.recorder.placeless =
        (Session.replayTraces {} others).2.recorder.placeless := by
  intro traces others
  have commands : recordingCommands (openedFiles traces) =
      recordingCommands (openedFiles others) := by
    decide +kernel
  exact ⟨commands, (replay_ignores_places {} rfl commands).1⟩

end DebugSymbols.Trace
