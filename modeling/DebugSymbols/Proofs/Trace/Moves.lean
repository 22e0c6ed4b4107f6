import DebugSymbols.Proofs.Trace.Events
/-!
# Replays move by move

A replay turns to one trace file after the other and carries out what it reads
there, command by command.  Each of this is a move, and the state that a replay
reaches is that of its moves so far.
-/

namespace DebugSymbols.Trace

/-- A replay turns to a trace file, or it carries out the command on a line. -/
inductive Move where
  | turn (path : String)
  | perform (index : Nat) (command : Command)
  deriving DecidableEq, Repr

def TraceFile.moves (file : TraceFile) : List Move :=
  .turn file.path :: file.commands.map fun numbered => .perform numbered.1 numbered.2

def moves (files : List TraceFile) : List Move :=
  files.flatMap TraceFile.moves

namespace Playback

def move (playback : Playback) : Move → Playback
  | .turn path => playback.begin path
  | .perform index command => playback.step index command

def moveAll (playback : Playback) (moves : List Move) : Playback :=
  moves.foldl move playback

variable (playback : Playback)

theorem moveAll_append (first second : List Move) :
    playback.moveAll (first ++ second) = (playback.moveAll first).moveAll second :=
  List.foldl_append

/-- Commands are performed by a run on the events that they ask for. -/
theorem moveAll_perform (commands : List (Nat × Command)) :
    playback.moveAll (commands.map fun numbered => .perform numbered.1 numbered.2) =
      ⟨playback.replay.afterCommands commands,
        playback.recorder.run (playback.replay.commandEvents commands)⟩ := by
  induction commands generalizing playback with
  | nil => rfl
  | cons numbered rest ih =>
      obtain ⟨index, command⟩ := numbered
      refine (ih (playback.step index command)).trans ?_
      rw [step_eq, Replay.commandEvents, Recorder.run_append]
      rfl

theorem moveAll_moves (files : List TraceFile) :
    playback.moveAll (moves files) =
      ⟨playback.replay.afterFiles files, playback.recorder.run (playback.replay.events files)⟩ := by
  induction files generalizing playback with
  | nil => rfl
  | cons file rest ih =>
      have here := moveAll_perform (playback.begin file.path) file.commands
      have turned : playback.moveAll file.moves = (playback.begin file.path).moveAll
          (file.commands.map fun numbered => .perform numbered.1 numbered.2) := rfl
      have split : moves (file :: rest) = file.moves ++ moves rest := List.flatMap_cons
      rw [split, moveAll_append, turned, here, ih, Replay.events, Recorder.run_append]
      rfl

end Playback

/-- Traces are replayed by the moves through the files that open. -/
theorem replayTraces_eq_moveAll (playback : Playback)
    (traces : List (String × Option Text.Stream)) :
    (Session.replayTraces playback traces).2 = playback.moveAll (moves (openedFiles traces)) :=
  (replayTraces_snd playback traces).trans (playback.moveAll_moves _).symm

end DebugSymbols.Trace
