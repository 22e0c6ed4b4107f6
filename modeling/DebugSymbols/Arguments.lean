import DebugSymbols.Numeral
/-!
# The command line

Words are paths of traces, options with a value and flags.  A value is the next
word or is attached, and a word that starts with a dash is no value.  Short
flags may share a word.  Nothing but a path may be given twice, and everything
behind a double dash is a path.
-/

namespace DebugSymbols

structure Arguments where
  inputs : List String := []
  output : Option String := none
  config : Option String := none
  version : Option UInt32 := none
  dump : Bool := false
  logLevel : Option String := none
  deriving DecidableEq, Repr

namespace Arguments

inductive Choice where
  | output
  | config
  | version
  | logLevel
  deriving DecidableEq, Repr

inductive Fault where
  | unknown (name : String)
  | missingValue (choice : Choice)
  | unneededValue (name : String)
  | repeated (name : String)
  | badVersion (value : String)
  deriving DecidableEq, Repr

def Choice.name : Choice → String
  | .output => "output"
  | .config => "config"
  | .version => "sym-version"
  | .logLevel => "log-level"

def Choice.ofName? : String → Option Choice
  | "output" => some .output
  | "config" => some .config
  | "sym-version" => some .version
  | "log-level" => some .logLevel
  | _ => none

def Choice.ofLetter? : Char → Option Choice
  | 'o' => some .output
  | 'c' => some .config
  | 's' => some .version
  | _ => none

def Fault.text : Fault → String
  | .unknown name => "unexpected argument: " ++ name
  | .missingValue choice => "a value is required for --" ++ choice.name
  | .unneededValue name => "no value is taken by --" ++ name
  | .repeated name => "given more than once: --" ++ name
  | .badVersion value => "invalid version: " ++ value

/-- A version is a decimal number that fits in 32 bits, behind at most one sign. -/
def version? (value : String) : Option UInt32 :=
  (Radix.decimal.readSigned? value.toList).bind fun number =>
    if 0 ≤ number ∧ number < UInt32.size then some (UInt32.ofNat number.toNat) else none

def set (arguments : Arguments) (choice : Choice) (value : String) : Except Fault Arguments :=
  let once := fun (earlier : Option String) (after : Arguments) =>
    if earlier.isSome then Except.error (Fault.repeated choice.name) else .ok after
  match choice with
  | .output => once arguments.output { arguments with output := some value }
  | .config => once arguments.config { arguments with config := some value }
  | .logLevel => once arguments.logLevel { arguments with logLevel := some value }
  | .version =>
      match version? value with
      | none => .error (.badVersion value)
      | some version =>
          if arguments.version.isSome then .error (.repeated choice.name)
          else .ok { arguments with version := some version }

def setDump (arguments : Arguments) : Except Fault Arguments :=
  if arguments.dump then .error (.repeated "dump") else .ok { arguments with dump := true }

/-- Reads a word of short options, and says which of them still waits for its value. -/
def readShort (arguments : Arguments) : List Char → Except Fault (Option Choice × Arguments)
  | [] => .ok (none, arguments)
  | 'd' :: rest => do readShort (← arguments.setDump) rest
  | letter :: rest =>
      match Choice.ofLetter? letter, rest with
      | none, _ => .error (.unknown (String.ofList ['-', letter]))
      | some choice, [] => .ok (some choice, arguments)
      | some choice, '=' :: value => do return (none, ← arguments.set choice (String.ofList value))
      | some choice, value => do return (none, ← arguments.set choice (String.ofList value))

/-- Reads a long option, and says whether it still waits for its value. -/
def readLong (arguments : Arguments) (word : List Char) :
    Except Fault (Option Choice × Arguments) :=
  let name := String.ofList (word.takeWhile (· ≠ '='))
  match Choice.ofName? name, word.dropWhile (· ≠ '=') with
  | some choice, [] => .ok (some choice, arguments)
  | some choice, _ :: value => do return (none, ← arguments.set choice (String.ofList value))
  | none, value =>
      if name ≠ "dump" then .error (.unknown ("--" ++ name))
      else if !value.isEmpty then .error (.unneededValue name)
      else do return (none, ← arguments.setDump)

/-- Reads words while an option may wait for its value. -/
def readWords (arguments : Arguments) (waiting : Option Choice) :
    List String → Except Fault Arguments
  | [] =>
      match waiting with
      | some choice => .error (.missingValue choice)
      | none => .ok arguments
  | word :: rest =>
      match waiting, word.toList with
      | some choice, '-' :: _ :: _ => .error (.missingValue choice)
      | some choice, _ => do readWords (← arguments.set choice word) none rest
      | none, ['-', '-'] => .ok { arguments with inputs := arguments.inputs ++ rest }
      | none, '-' :: '-' :: option => do
          let (waiting, after) ← arguments.readLong option
          readWords after waiting rest
      | none, '-' :: letter :: letters => do
          let (waiting, after) ← arguments.readShort (letter :: letters)
          readWords after waiting rest
      | none, _ => readWords { arguments with inputs := arguments.inputs ++ [word] } none rest

def defaultInput : String := "main.trace"

def read (words : List String) : Except Fault Arguments :=
  (readWords {} none words).map fun arguments =>
    if arguments.inputs.isEmpty then { arguments with inputs := [defaultInput] } else arguments

end Arguments

end DebugSymbols
