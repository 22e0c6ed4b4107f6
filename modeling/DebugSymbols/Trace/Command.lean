import DebugSymbols.DataKind
import DebugSymbols.Text.Blank
import DebugSymbols.Trace.Number
import DebugSymbols.Trace.Problem
/-!
# Commands of a trace

A line holds at most one command: a keyword and its arguments, set apart by
blanks.  A number sign starts a comment.  Arguments are looked at from left to
right, the first that is absent or malformed decides the answer, and words
behind the last argument are ignored.
-/

namespace DebugSymbols.Trace

inductive Command where
  | file (path : String)
  | line (number : Nat)
  | startModule (name : String)
  | endModule (name : String)
  | label (address : Int64) (name : String)
  | data (address size : Int64) (kind : DataKind)
  | startFunction (address : Int64)
  | endFunction (address : Int64)
  | enable
  | disable
  deriving DecidableEq, Repr

def uncommented (line : List Char) : List Char :=
  line.takeWhile (· ≠ '#')

def lineWords (line : String) : List String :=
  (Text.words (uncommented line.toList)).map String.ofList

def argument (arguments : List String) (index : Nat) : Except Problem String :=
  match arguments[index]? with
  | some word => .ok word
  | none => .error .missingArgument

/-- The argument at an index as what its role asks for. -/
def convert {α : Type} (read? : List Char → Option α) (role : Role) (arguments : List String)
    (index : Nat) : Except Problem α := do
  let word ← argument arguments index
  match read? word.toList with
  | some value => .ok value
  | none => .error (.badArgument word role)

namespace Command

def ofWords (keyword : String) (arguments : List String) : Except Problem Command :=
  match keyword with
  | "file" => return .file (← argument arguments 0)
  | "line" => return .line (← convert lineNumber? .line arguments 0)
  | "module" => return .startModule (← argument arguments 0)
  | "endmodule" => return .endModule (← argument arguments 0)
  | "label" => do
      let address ← convert number? .address arguments 0
      let name ← argument arguments 1
      return .label address name
  | "data" => do
      let address ← convert number? .address arguments 0
      let size ← convert number? .size arguments 1
      let kind ← convert (fun word => DataKind.ofTag? (String.ofList word)) .dataKind arguments 2
      return .data address size kind
  | "func" => return .startFunction (← convert number? .address arguments 0)
  | "endfunc" => return .endFunction (← convert number? .address arguments 0)
  | "enable" => .ok .enable
  | "disable" => .ok .disable
  | _ => .error (.unknownCommand keyword)

/-- The command on a line, or none if the line has no words. -/
def read (line : String) : Except Problem (Option Command) :=
  match lineWords line with
  | [] => .ok none
  | keyword :: arguments => (ofWords keyword arguments).map some

end Command

end DebugSymbols.Trace
