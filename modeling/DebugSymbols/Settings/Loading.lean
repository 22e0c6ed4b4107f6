import DebugSymbols.Settings.Basic
import DebugSymbols.Text.Stream
/-!
# Loading settings

How a document says what the settings are is left to a reader.  A setting that
the document does not give has its default.
-/

namespace DebugSymbols

inductive SettingsFault where
  | open (source : String)
  | parse (source : String)
  deriving DecidableEq, Repr

def SettingsFault.text : SettingsFault → String
  | .open source => "Failed to open config file: " ++ source
  | .parse source => "Failed to parse config file: " ++ source

namespace Settings

/-- The settings that a document gives.  It may give an output path and say that there is none. -/
structure Draft where
  output : Option (Option String) := none
  version : Option UInt32 := none
  enabled : Option Bool := none
  deriving DecidableEq, Repr

def Draft.complete (draft : Draft) : Settings :=
  let default : Settings := {}
  { output := draft.output.getD default.output
    version := draft.version.getD default.version
    enabled := draft.enabled.getD default.enabled }

/-- What a document gives, unless it cannot be had or is no document of settings. -/
abbrev Reader := Text.Stream → Option Draft

/-- The settings in the file at a path, which is absent if it does not open. -/
def Reader.load (reader : Reader) (path : String) (stream : Option Text.Stream) :
    Except SettingsFault Settings :=
  match stream with
  | none => .error (.open path)
  | some stream =>
      match reader stream with
      | some draft => .ok draft.complete
      | none => .error (.parse path)

end Settings

end DebugSymbols
