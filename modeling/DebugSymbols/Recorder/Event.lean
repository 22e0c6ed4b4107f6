import DebugSymbols.SymbolFile.Saving
/-!
# Events of a recording

Everything that can be asked of a recorder is one of thirteen events.  A run is
a list of them, and each is answered.
-/

namespace DebugSymbols

/-- One operation of a recorder.  Saving comes with the place that the output path yields. -/
inductive Event where
  | clear
  | configure (settings : Settings)
  | setEnabled (enabled : Bool)
  | setOutput (output : Option String)
  | setVersion (version : UInt32)
  | startModule (token : FileToken)
  | endModule (token : Option FileToken)
  | addLabel (place : Position) (address : Int64) (name : String)
  | addData (place : Position) (address size : Int64) (kind : DataKind)
  | addAddress (place : Position) (address : Int64)
  | startFunction (place : Position) (address : Int64)
  | endFunction (address : Int64)
  | save (place : Option Sink)
  deriving DecidableEq, Repr

def Declaration.event (declaration : Declaration) (place : Position) : Event :=
  match declaration with
  | .label symbol => .addLabel place symbol.address symbol.name
  | .datum entry => .addData place entry.address entry.size entry.kind

inductive Reply where
  | done
  | index (value : Nat)
  | closed (violation : Option Violation)
  | saved (result : SaveResult)
  deriving DecidableEq, Repr

namespace Recorder

def step (recorder : Recorder) : Event → Reply × Recorder
  | .clear => (.done, recorder.clear)
  | .configure settings => (.done, recorder.configure settings)
  | .setEnabled enabled => (.done, recorder.setEnabled enabled)
  | .setOutput output => (.done, recorder.setOutput output)
  | .setVersion version => (.done, recorder.setVersion version)
  | .startModule token =>
      let after := recorder.startModule token
      (.index after.current, after)
  | .endModule token =>
      let (violation, after) := recorder.endModule token
      (.closed violation, after)
  | .addLabel place address name => (.done, recorder.addLabel place address name)
  | .addData place address size kind => (.done, recorder.addData place address size kind)
  | .addAddress place address =>
      let (index, after) := recorder.recordAddress place address
      (.index index, after)
  | .startFunction place address => (.done, recorder.startFunction place address)
  | .endFunction address =>
      let (violation, after) := recorder.endFunction address
      (.closed violation, after)
  | .save place =>
      let (result, after) := recorder.save place
      (.saved result, after)

def run (recorder : Recorder) (events : List Event) : Recorder :=
  events.foldl (fun state event => (state.step event).2) recorder

theorem run_append (recorder : Recorder) (first second : List Event) :
    recorder.run (first ++ second) = (recorder.run first).run second :=
  List.foldl_append

end Recorder

end DebugSymbols
