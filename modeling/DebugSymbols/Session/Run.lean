import DebugSymbols.Arguments
import DebugSymbols.FileTree
import DebugSymbols.Listing
import DebugSymbols.Settings.Loading
import DebugSymbols.Trace.Replay
/-!
# A whole run

A run takes its settings from the command line and from a settings file,
replays the traces in order, saves the symbol file and lists what was recorded.
Only a settings file that cannot be used and a symbol file that cannot be saved
make it fail; problems of a trace are printed.  What a settings file says is
left to a reader.
-/

namespace DebugSymbols.Session

open Trace (Command Playback Problem)

structure Outcome where
  exitCode : UInt32
  printed : String
  tree : FileTree
  deriving DecidableEq, Repr

def defaultOutput : String := "main.sym"

def greeting : String := "nocash sym recorder\n"

def replayHeading : String := "1. Replay Traces\n"

def savingHeading : String := "2. Write Symbol File\n"

/-- The settings of a run.  The command line comes before the settings file. -/
def effective (arguments : Arguments) (settings : Settings) : Settings :=
  { settings with
    output := some ((arguments.output <|> settings.output).getD defaultOutput)
    version := arguments.version.getD settings.version }

def renderAll (messages : List Message) : String :=
  String.join (messages.map Message.render)

/-- What is printed about a line: why it is no command, or else what the recorder reported. -/
def lineReport (path : String) (index : Nat) (line : String) (before after : Playback) : String :=
  match Command.read line with
  | .error problem => problem.render path index line
  | .ok _ => renderAll (before.messagesSince after)

/-- Replays the lines from an index on, up to the first that cannot be read. -/
def replayLines (path : String) (index : Nat) (playback : Playback) :
    List (Option String) → String × Playback
  | [] => ("", playback)
  | none :: _ => (Problem.unreadable.render path index "", playback)
  | some line :: rest =>
      let after := playback.feed index line
      let (more, last) := replayLines path (index + 1) after rest
      (lineReport path index line playback after ++ more, last)

/-- Replays a trace, which is absent if its file does not open. -/
def replayTrace (playback : Playback) (path : String) (stream : Option Text.Stream) :
    String × Playback :=
  let heading := "  < " ++ path ++ "\n"
  match stream with
  | none => (heading ++ (Problem.unopened path).render path 0 "", playback)
  | some stream =>
      let (printed, after) := replayLines path 0 (playback.begin path) stream.lines
      (heading ++ printed, after)

def replayTraces (playback : Playback) :
    List (String × Option Text.Stream) → String × Playback
  | [] => ("", playback)
  | (path, stream) :: rest =>
      let (printed, after) := replayTrace playback path stream
      let (more, last) := replayTraces after rest
      (printed ++ more, last)

def initial (settings : Settings) : Playback :=
  { recorder := ({} : Recorder).configure settings }

/-- Replays the traces of a run under its settings, and says what is printed before saving. -/
def record (settings : Settings) (traces : List (String × Option Text.Stream)) :
    String × Playback :=
  let (printed, playback) := replayTraces (initial settings) traces
  let target := match playback.recorder.output with
    | some path => "  > " ++ path ++ "\n"
    | none => ""
  (replayHeading ++ printed ++ savingHeading ++ target, playback)

/-- What is printed after saving, and the exit code.  A failure is printed in place of a listing. -/
def conclude (dump : Bool) (playback : Playback) (result : SaveResult) (after : Recorder) :
    String × UInt32 :=
  let reported := renderAll (after.messages.drop playback.recorder.messages.length)
  match result.fault with
  | some _ => (reported, 1)
  | none =>
      if dump then (reported ++ Listing.render (after.listing playback.replay.tokens), 0)
      else (reported, 0)

/-- The settings of a run, or what is printed about the settings file that it cannot use. -/
def settings (reader : Settings.Reader) (arguments : Arguments) (config : Option Text.Stream) :
    Except String Settings :=
  match arguments.config with
  | none => .ok (effective arguments {})
  | some path =>
      match reader.load path config with
      | .ok loaded => .ok (effective arguments loaded)
      | .error fault => .error (Message.render ⟨.error, fault.text⟩)

def run (reader : Settings.Reader) (arguments : Arguments) (tree : FileTree) : Outcome :=
  match settings reader arguments (arguments.config.bind tree.open?) with
  | .error printed => ⟨1, greeting ++ printed, tree⟩
  | .ok settings =>
      let (printed, playback) :=
        record settings (arguments.inputs.map fun path => (path, tree.open? path))
      let (result, after, saved) := tree.save playback.recorder
      let (more, exitCode) := conclude arguments.dump playback result after
      ⟨exitCode, greeting ++ printed ++ more, saved⟩

end DebugSymbols.Session
