import DebugSymbols.Position
import DebugSymbols.Terminal
/-!
# Messages

A message is a text with a severity.  It is printed on a line of its own, and
where it is about a line of a file, that line is shown underneath.
-/

namespace DebugSymbols

inductive Severity where
  | error
  | warning
  | note
  deriving DecidableEq, Repr

namespace Severity

def label : Severity → String
  | .error => "error"
  | .warning => "warn"
  | .note => "note"

def colour : Severity → Style
  | .error => .red
  | .warning => .yellow
  | .note => .green

end Severity

structure Message where
  severity : Severity
  text : String
  deriving DecidableEq, Repr

namespace Message

def isError (message : Message) : Bool :=
  message.severity == .error

def render (message : Message) : String :=
  styled [message.severity.colour, .bold] message.severity.label ++ ": " ++ message.text ++ "\n"

def renderAt (message : Message) (place : Position) (content : String) : String :=
  let number := decimal place.line
  let margin := "      " ++ styled [.blue] "|" ++ "\n"
  message.render ++
    "     " ++ styled [.blue] "-->" ++ " " ++
      styled [.underline] (place.file ++ ":" ++ number) ++ "\n" ++
    margin ++
    " " ++ styled [.blue] (Text.alignRight 4 number ++ " |") ++ " " ++ content ++ "\n" ++
    margin

end Message

def hasError (messages : List Message) : Bool :=
  messages.any Message.isError

end DebugSymbols
