import DebugSymbols.Recorder.Module
import DebugSymbols.Recorder.Violation
import DebugSymbols.Settings.Basic
/-!
# The recorder

A recorder keeps one module per source stream.  Labels, data, functions and
addresses go to the current one, which is the default module 0 unless another
has been started.  At most one function is open, in whatever module it was
opened.  Misuse is answered, and unless it is silent also reported.
-/

namespace DebugSymbols

/-- Which function is open: its module and its place there. -/
structure FunctionSlot where
  module : Nat
  function : Nat
  deriving DecidableEq, Repr

structure Recorder where
  enabled : Bool := true
  output : Option String := none
  version : UInt32 := 1
  modules : List Module := [{}]
  paths : PathTable := {}
  current : Nat := 0
  slot : Option FunctionSlot := none
  messages : List Message := []
  deriving DecidableEq, Repr, Inhabited

namespace Recorder

def currentModule (recorder : Recorder) : Module :=
  recorder.modules[recorder.current]?.getD {}

def openFunction? (recorder : Recorder) : Option FunctionSpan :=
  recorder.slot.bind fun slot =>
    recorder.modules[slot.module]?.bind fun module => module.functions[slot.function]?

/-- Where an address was first recorded in a module. -/
def sourceOf? (recorder : Recorder) (index : Nat) (address : Int64) : Option Position :=
  recorder.modules[index]?.bind fun module =>
    (module.recordOf? address).bind fun entry =>
      (recorder.paths.path? entry.file).map fun file => ⟨file, entry.line⟩

def modifyModule (recorder : Recorder) (index : Nat) (change : Module → Module) : Recorder :=
  { recorder with modules := recorder.modules.modify index change }

def modifyCurrent (recorder : Recorder) (change : Module → Module) : Recorder :=
  recorder.modifyModule recorder.current change

def report (recorder : Recorder) (messages : List Message) : Recorder :=
  { recorder with messages := recorder.messages ++ messages }

/-- Answers with a violation and reports it unless it is silent. -/
def refuse (recorder : Recorder) (violation : Violation) : Option Violation × Recorder :=
  (some violation, recorder.report violation.messages)

/-- Back to one empty default module.  The format version and what was reported are kept. -/
def clear (recorder : Recorder) : Recorder :=
  { version := recorder.version, messages := recorder.messages }

def configure (recorder : Recorder) (settings : Settings) : Recorder :=
  { recorder with
    enabled := settings.enabled, version := settings.version, output := settings.output }

def setEnabled (recorder : Recorder) (enabled : Bool) : Recorder :=
  { recorder with enabled := enabled }

def setOutput (recorder : Recorder) (output : Option String) : Recorder :=
  { recorder with output := output }

def setVersion (recorder : Recorder) (version : UInt32) : Recorder :=
  { recorder with version := version }

def moduleIndex (recorder : Recorder) (token : FileToken) : Nat :=
  recorder.modules.findIdx fun module => module.token == some token

def startModule (recorder : Recorder) (token : FileToken) : Recorder :=
  let index := recorder.moduleIndex token
  if index < recorder.modules.length then { recorder with current := index }
  else
    { recorder with
      modules := recorder.modules ++ [{ token := some token }], current := index }

/-- Goes back to the default module if the token is that of the current one.  An open function
is dropped with its size left at 0. -/
def endModule (recorder : Recorder) (token : Option FileToken) : Option Violation × Recorder :=
  if recorder.currentModule.token ≠ token then recorder.refuse .moduleMismatch
  else if recorder.current = 0 then recorder.refuse .noModuleOpened
  else
    let closed := { recorder with current := 0, slot := none }
    if recorder.slot.isSome then closed.refuse .moduleClosedInFunction else (none, closed)

/-- Records where an address comes from unless the current module knows it already, and answers
with the place of its record. -/
def recordAddress (recorder : Recorder) (place : Position) (address : Int64) : Nat × Recorder :=
  match recorder.currentModule.recordIndex? address with
  | some index => (index, recorder)
  | none =>
      let (file, paths) := recorder.paths.intern place.file
      (recorder.currentModule.records.length,
        { recorder.modifyCurrent (·.appendRecord address ⟨address, file, place.line⟩) with
          paths := paths })

def addAddress (recorder : Recorder) (place : Position) (address : Int64) : Recorder :=
  (recorder.recordAddress place address).2

/-- Records a declaration and its address while recording is enabled. -/
def declare (recorder : Recorder) (place : Position) (declaration : Declaration) : Recorder :=
  if !recorder.enabled || recorder.currentModule.has declaration then recorder
  else (recorder.addAddress place declaration.address).modifyCurrent (·.insert declaration)

def addLabel (recorder : Recorder) (place : Position) (address : Int64) (name : String) :
    Recorder :=
  recorder.declare place (.label ⟨address, name⟩)

def addData (recorder : Recorder) (place : Position) (address size : Int64) (kind : DataKind) :
    Recorder :=
  recorder.declare place (.datum ⟨address, size, kind⟩)

def endFunction (recorder : Recorder) (address : Int64) : Option Violation × Recorder :=
  match recorder.slot with
  | none => recorder.refuse .notInFunction
  | some slot =>
      (none,
        { recorder.modifyModule slot.module (·.closeFunction slot.function address) with
          slot := none })

/-- Opens a function in the current module.  One that is open is closed at the same address. -/
def startFunction (recorder : Recorder) (place : Position) (address : Int64) : Recorder :=
  let closed := if recorder.slot.isSome then (recorder.endFunction address).2 else recorder
  let opened :=
    { closed.modifyCurrent (·.openFunction address) with
      slot := some ⟨closed.current, closed.currentModule.functions.length⟩ }
  opened.addAddress place address

end Recorder

end DebugSymbols
