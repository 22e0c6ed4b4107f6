import DebugSymbols.Recorder.Event
import DebugSymbols.Trace.Command
/-!
# Replaying traces

Commands are fed to a recorder one by one.  Until a trace file names a source
file or a line of its own, the position recorded is the place of the command in
the trace file itself.  File tokens last over all files of a replay.
-/

namespace DebugSymbols.Trace

/-- Where a replay stands: the position for what is recorded next, whether the current file has
set it, and the tokens issued so far. -/
structure Replay where
  position : Position := {}
  explicit : Bool := false
  tokens : FileTokens := {}
  deriving DecidableEq, Repr, Inhabited

namespace Replay

def begin (replay : Replay) (path : String) : Replay :=
  { replay with position := ⟨path, 0⟩, explicit := false }

/-- Moves the position to a line of the trace file unless the file has set its own. -/
def follow (replay : Replay) (index : Nat) : Replay :=
  if replay.explicit then replay
  else { replay with position := { replay.position with line := index + 1 } }

def apply (replay : Replay) : Command → Replay
  | .file path =>
      { replay with position := { replay.position with file := path }, explicit := true }
  | .line number =>
      { replay with position := { replay.position with line := number }, explicit := true }
  | .startModule name | .endModule name => { replay with tokens := replay.tokens.insert name }
  | _ => replay

/-- The replay after the command on a line, and what it records from then on. -/
def advance (replay : Replay) (index : Nat) (command : Command) : Replay :=
  (replay.follow index).apply command

/-- What a command asks of the recorder. -/
def event? (replay : Replay) : Command → Option Event
  | .file _ | .line _ => none
  | .startModule name => some (.startModule (replay.tokens.tokenOf name))
  | .endModule name => some (.endModule (some (replay.tokens.tokenOf name)))
  | .label address name => some (.addLabel replay.position address name)
  | .data address size kind => some (.addData replay.position address size kind)
  | .startFunction address => some (.startFunction replay.position address)
  | .endFunction address => some (.endFunction address)
  | .enable => some (.setEnabled true)
  | .disable => some (.setEnabled false)

end Replay

structure Playback where
  replay : Replay := {}
  recorder : Recorder := {}
  deriving DecidableEq, Repr, Inhabited

namespace Playback

def begin (playback : Playback) (path : String) : Playback :=
  { playback with replay := playback.replay.begin path }

def step (playback : Playback) (index : Nat) (command : Command) : Playback :=
  let replay := playback.replay.advance index command
  match replay.event? command with
  | none => { playback with replay := replay }
  | some event => ⟨replay, (playback.recorder.step event).2⟩

def feed (playback : Playback) (index : Nat) (line : String) : Playback :=
  match Command.read line with
  | .ok (some command) => playback.step index command
  | _ => playback

def messagesSince (before after : Playback) : List Message :=
  after.recorder.messages.drop before.recorder.messages.length

end Playback

end DebugSymbols.Trace
