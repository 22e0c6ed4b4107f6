import DebugSymbols.Proofs.Text.Readable
import DebugSymbols.Session.Run
/-!
# Traces as events

Of a trace file, only the commands that can be read and the indices of their
lines matter.  Replaying traces is a run of the recorder on the events that
these commands ask for.
-/

namespace DebugSymbols

def Event.isTraced : Event → Bool
  | .startModule _ | .endModule _ | .addLabel .. | .addData .. => true
  | .startFunction .. | .endFunction _ | .setEnabled _ => true
  | _ => false

namespace Trace

/-! ## The commands of a trace file -/

/-- The commands on the lines from an index on, each with the index of its line.  Other lines
count, and a line that cannot be read ends the file. -/
def numberedCommands (index : Nat) : List (Option String) → List (Nat × Command)
  | some line :: rest =>
      match Command.read line with
      | .ok (some command) => (index, command) :: numberedCommands (index + 1) rest
      | _ => numberedCommands (index + 1) rest
  | _ => []

def commandOn? (numbered : String × Nat) : Option (Nat × Command) :=
  match Command.read numbered.1 with
  | .ok (some command) => some (numbered.2, command)
  | _ => none

def commandsOn (lines : List String) : List (Nat × Command) :=
  lines.zipIdx.filterMap commandOn?

theorem numberedCommands_eq (index : Nat) (lines : List (Option String)) :
    numberedCommands index lines =
      ((lines.takeWhile Option.isSome).reduceOption.zipIdx index).filterMap commandOn? := by
  induction lines generalizing index with
  | nil => rfl
  | cons first rest ih =>
      cases first with
      | none => rfl
      | some line =>
          have more : ((some line :: rest).takeWhile Option.isSome).reduceOption =
              line :: (rest.takeWhile Option.isSome).reduceOption :=
            List.reduceOption_cons_of_some line _
          rw [more, List.zipIdx_cons, List.filterMap_cons, ← ih, numberedCommands, commandOn?]
          cases Command.read line with
          | error problem => rfl
          | ok found =>
              cases found with
              | none => rfl
              | some command => rfl

/-- A trace file has the commands on the lines that can be read. -/
theorem numberedCommands_lines (stream : Text.Stream) :
    numberedCommands 0 stream.lines = commandsOn stream.readable := by
  rw [numberedCommands_eq, ← Text.Stream.readable_eq, commandsOn]

/-- A trace file by what is carried out. -/
structure TraceFile where
  path : String
  commands : List (Nat × Command)
  deriving DecidableEq, Repr

def openedFiles (traces : List (String × Option Text.Stream)) : List TraceFile :=
  traces.filterMap fun trace =>
    trace.2.map fun stream => ⟨trace.1, numberedCommands 0 stream.lines⟩

namespace Replay

@[simp]
theorem tokens_follow (replay : Replay) (index : Nat) :
    (replay.follow index).tokens = replay.tokens := by
  unfold follow
  split
  · rfl
  · rfl

/-! ## The events of a replay -/

def afterCommands (replay : Replay) (commands : List (Nat × Command)) : Replay :=
  commands.foldl (fun state numbered => state.advance numbered.1 numbered.2) replay

def commandEvents (replay : Replay) : List (Nat × Command) → List Event
  | [] => []
  | (index, command) :: rest =>
      ((replay.advance index command).event? command).toList ++
        (replay.advance index command).commandEvents rest

def afterFile (replay : Replay) (file : TraceFile) : Replay :=
  (replay.begin file.path).afterCommands file.commands

def afterFiles (replay : Replay) (files : List TraceFile) : Replay :=
  files.foldl afterFile replay

def events (replay : Replay) : List TraceFile → List Event
  | [] => []
  | file :: rest =>
      (replay.begin file.path).commandEvents file.commands ++ (replay.afterFile file).events rest

theorem isTraced_of_event? {replay : Replay} {command : Command} {event : Event}
    (asked : replay.event? command = some event) : event.isTraced = true := by
  cases command
  all_goals cases asked
  all_goals rfl

/-- An event among those of some commands is what one of them asks for. -/
theorem exists_of_mem_commandEvents {replay : Replay} {commands : List (Nat × Command)}
    {event : Event} (member : event ∈ replay.commandEvents commands) :
    ∃ state : Replay, ∃ numbered ∈ commands, state.event? numbered.2 = some event := by
  induction commands generalizing replay with
  | nil => cases member
  | cons numbered rest ih =>
      obtain ⟨index, command⟩ := numbered
      rcases List.mem_append.1 member with here | later
      · exact ⟨_, _, List.mem_cons_self, Option.mem_toList.1 here⟩
      · obtain ⟨state, other, standing, asked⟩ := ih later
        exact ⟨state, other, List.mem_cons_of_mem _ standing, asked⟩

theorem exists_of_mem_events {replay : Replay} {files : List TraceFile} {event : Event}
    (member : event ∈ replay.events files) :
    ∃ state : Replay, ∃ file ∈ files, ∃ numbered ∈ file.commands,
      state.event? numbered.2 = some event := by
  induction files generalizing replay with
  | nil => cases member
  | cons file rest ih =>
      rcases List.mem_append.1 member with here | later
      · obtain ⟨state, numbered, standing, asked⟩ := exists_of_mem_commandEvents here
        exact ⟨state, file, List.mem_cons_self, numbered, standing, asked⟩
      · obtain ⟨state, other, among, found⟩ := ih later
        exact ⟨state, other, List.mem_cons_of_mem _ among, found⟩

/-- Traces never clear the recorder, give it settings or save what it has. -/
theorem isTraced_of_mem_events {replay : Replay} {files : List TraceFile} {event : Event}
    (member : event ∈ replay.events files) : event.isTraced = true := by
  obtain ⟨state, file, _, numbered, _, asked⟩ := exists_of_mem_events member
  exact isTraced_of_event? asked

theorem clear_not_mem_events (replay : Replay) (files : List TraceFile) :
    .clear ∉ replay.events files :=
  fun member => nomatch isTraced_of_mem_events member

theorem save_not_mem_events (replay : Replay) (files : List TraceFile) (place : Option Sink) :
    .save place ∉ replay.events files :=
  fun member => nomatch isTraced_of_mem_events member

end Replay

/-! ## Replays as runs -/

variable (playback : Playback)

theorem Playback.step_eq (index : Nat) (command : Command) :
    playback.step index command =
      ⟨playback.replay.advance index command, playback.recorder.run
        ((playback.replay.advance index command).event? command).toList⟩ := by
  rw [step]
  cases (playback.replay.advance index command).event? command with
  | none => rfl
  | some event => rfl

/-- Replaying lines is a run on the events of their commands. -/
theorem replayLines_snd (path : String) (index : Nat) (lines : List (Option String)) :
    (Session.replayLines path index playback lines).2 =
      ⟨playback.replay.afterCommands (numberedCommands index lines),
        playback.recorder.run (playback.replay.commandEvents (numberedCommands index lines))⟩ := by
  induction lines generalizing index playback with
  | nil => rfl
  | cons first rest ih =>
      cases first with
      | none => rfl
      | some line =>
          have later := ih (playback.feed index line) (index + 1)
          have fed : (Session.replayLines path index playback (some line :: rest)).2 =
              (Session.replayLines path (index + 1) (playback.feed index line) rest).2 := rfl
          rw [fed, later, Playback.feed, numberedCommands]
          cases Command.read line with
          | error problem => rfl
          | ok found =>
              cases found with
              | none => rfl
              | some command =>
                  simp only [Playback.step_eq, Replay.commandEvents, Recorder.run_append]
                  rfl

/-- Replaying traces is a run on the events of the files that open. -/
theorem replayTraces_snd (traces : List (String × Option Text.Stream)) :
    (Session.replayTraces playback traces).2 =
      ⟨playback.replay.afterFiles (openedFiles traces),
        playback.recorder.run (playback.replay.events (openedFiles traces))⟩ := by
  induction traces generalizing playback with
  | nil => rfl
  | cons trace rest ih =>
      obtain ⟨path, stream⟩ := trace
      cases stream with
      | none => exact ih playback
      | some stream =>
          let lines := stream.lines
          have opened : (Session.replayTrace playback path (some stream)).2 =
              (Session.replayLines path 0 (playback.begin path) lines).2 := rfl
          have turned : (Session.replayTraces playback ((path, some stream) :: rest)).2 =
              (Session.replayTraces (Session.replayTrace playback path (some stream)).2 rest).2 :=
            rfl
          rw [turned, opened, replayLines_snd, ih]
          have files : openedFiles ((path, some stream) :: rest) =
              ⟨path, numberedCommands 0 lines⟩ :: openedFiles rest := rfl
          rw [files, Replay.events, Recorder.run_append]
          rfl

end Trace

end DebugSymbols
