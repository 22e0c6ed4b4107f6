import DebugSymbols.Session
/-!
# The program

The files of the machine take the place of a file tree.
-/

namespace DebugSymbols

def openFile (path : String) (mode : IO.FS.Mode) : IO (Option IO.FS.Handle) := do
  try
    return some (← IO.FS.Handle.mk path mode)
  catch _ => return none

def readOpen (handle : IO.FS.Handle) : IO Text.Stream := do
  try
    return ⟨(← handle.readBinToEnd).toList, false⟩
  catch _ => return ⟨[], true⟩

/-- Writes to an open file, and answers with a place that takes or refuses what the file did. -/
def writeOpen (handle : IO.FS.Handle) (octets : List UInt8) : IO Sink := do
  try
    handle.write octets.toByteArray
    handle.flush
    return {}
  catch _ => return { room := some 0 }

def readFile (path : String) : IO (Option Text.Stream) := do
  match ← openFile path .read with
  | some handle => return some (← readOpen handle)
  | none => return none

def writeFile (path : String) (octets : List UInt8) : IO (Option Sink) := do
  match ← openFile path .write with
  | some handle => return some (← writeOpen handle octets)
  | none => return none

def runArguments (arguments : Arguments) : IO UInt32 := do
  IO.print Session.greeting
  let config ← match arguments.config with
    | some path => readFile path
    | none => pure none
  match Session.settings Settings.document arguments config with
  | .error printed =>
      IO.print printed
      return 1
  | .ok settings =>
      let traces ← arguments.inputs.mapM fun path => return (path, ← readFile path)
      let (printed, playback) := Session.record settings traces
      IO.print printed
      let recorder := playback.recorder
      let place ← match recorder.output with
        | some path => writeFile path (Text.encode (SymbolFile.text recorder.entries))
        | none => pure none
      let (result, after) := recorder.save place
      let (more, exitCode) := Session.conclude arguments.dump playback result after
      IO.print more
      return exitCode

end DebugSymbols

def main (words : List String) : IO UInt32 :=
  match DebugSymbols.Arguments.read words with
  | .ok arguments => DebugSymbols.runArguments arguments
  | .error fault => do
      IO.eprintln ("error: " ++ fault.text)
      return 2
