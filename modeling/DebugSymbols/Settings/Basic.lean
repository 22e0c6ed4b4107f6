/-!
# Settings of the symbol output
-/

namespace DebugSymbols

/-- Where symbols are written, in which version of the format, and whether they are recorded. -/
structure Settings where
  output : Option String := none
  version : UInt32 := 1
  enabled : Bool := true
  deriving DecidableEq, Repr, Inhabited

end DebugSymbols
