import DebugSymbols.Message
/-!
# Problems of a trace

A line that is no command, a file that does not open and a line that cannot be
read are printed as errors with the place at which they were met.  None stops
the replay of the files that follow.
-/

namespace DebugSymbols.Trace

/-- What an argument that has to be converted stands for. -/
inductive Role where
  | address
  | size
  | line
  | dataKind
  deriving DecidableEq, Repr

def Role.text : Role → String
  | .address => "address"
  | .size => "size"
  | .line => "line"
  | .dataKind => "data kind"

inductive Problem where
  | unknownCommand (word : String)
  | missingArgument
  | badArgument (word : String) (role : Role)
  | unopened (path : String)
  | unreadable
  deriving DecidableEq, Repr

namespace Problem

def text : Problem → String
  | .unknownCommand word => "Unknown command: `" ++ word ++ "`"
  | .missingArgument => "More argument required"
  | .badArgument word role => "Cannot parse `" ++ word ++ "` as " ++ role.text
  | .unopened path => "Failed to open file: " ++ path
  | .unreadable => "Failed to read line"

def render (problem : Problem) (path : String) (index : Nat) (content : String) : String :=
  Message.renderAt ⟨.error, problem.text⟩ ⟨path, index + 1⟩ content

end Problem

end DebugSymbols.Trace
