import DebugSymbols.Session.Run
import DebugSymbols.Settings.Document
/-!
# Runs from the command line

Settings files are documents.
-/

namespace DebugSymbols.Session

/-- A run that a command line asks for.  A command line that is refused prints nothing. -/
def runWords (words : List String) (tree : FileTree) : Outcome :=
  match Arguments.read words with
  | .ok arguments => run Settings.document arguments tree
  | .error _ => ⟨2, "", tree⟩

end DebugSymbols.Session
