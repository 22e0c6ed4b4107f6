/-!
# Source positions
-/

namespace DebugSymbols

/-- A line of a source file.  Before anything is read, the file is unnamed and the line 0. -/
structure Position where
  file : String := ""
  line : Nat := 0
  deriving DecidableEq, Repr, Inhabited

end DebugSymbols
