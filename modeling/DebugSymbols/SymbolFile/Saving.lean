import DebugSymbols.Recorder.Basic
import DebugSymbols.SymbolFile.Text
/-!
# Saving a recording

A recorder with an output path writes its symbol file into the place that
creating the path gives.  Both ways to fail are answered and reported once.
-/

namespace DebugSymbols

inductive SaveFault where
  | create (path : String)
  | write (path : String)
  deriving DecidableEq, Repr

def SaveFault.text : SaveFault → String
  | .create path => "Could not open sym file " ++ path
  | .write path => "Failed to write sym file " ++ path

structure SaveResult where
  fault : Option SaveFault
  place : Option Sink
  deriving DecidableEq, Repr

namespace Recorder

def entries (recorder : Recorder) : List SymbolFile.Entry :=
  SymbolFile.entries recorder.version recorder.modules

def failSaving (recorder : Recorder) (fault : SaveFault) (place : Option Sink) :
    SaveResult × Recorder :=
  (⟨some fault, place⟩, recorder.report [⟨.error, fault.text⟩])

/-- Writes the symbol file into a place, which is absent if the output path could not be created.
Without an output path nothing is done. -/
def save (recorder : Recorder) (place : Option Sink) : SaveResult × Recorder :=
  match recorder.output, place with
  | none, _ => (⟨none, none⟩, recorder)
  | some path, none => recorder.failSaving (.create path) none
  | some path, some sink =>
      match SymbolFile.writeTo sink recorder.entries with
      | (true, after) => (⟨none, some after⟩, recorder)
      | (false, after) => recorder.failSaving (.write path) (some after)

end Recorder

end DebugSymbols
