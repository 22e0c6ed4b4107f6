import DebugSymbols.Message
/-!
# Misuse of the recording protocol

A violation is answered to the caller and never stops the recording.  All but
one kind are also reported as errors.
-/

namespace DebugSymbols

inductive Violation where
  | moduleMismatch
  | noModuleOpened
  | moduleClosedInFunction
  | notInFunction
  deriving DecidableEq, Repr

namespace Violation

def text : Violation → String
  | .moduleMismatch => "Module closed with a file that is not the current module"
  | .noModuleOpened => "No module opened"
  | .moduleClosedInFunction => "Module closed before function end"
  | .notInFunction => "Not inside a function"

/-- Closing a module that is not the current one is ignored without a report. -/
def isSilent : Violation → Bool
  | .moduleMismatch => true
  | _ => false

def messages (violation : Violation) : List Message :=
  if violation.isSilent then [] else [⟨.error, violation.text⟩]

end Violation

end DebugSymbols
