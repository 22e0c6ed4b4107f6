import DebugSymbols.Yaml.Cursor
/-!
# Gaps in scalars

Between the words of a scalar on several lines stand blanks and breaks.  Blanks
alone are kept.  A single newline becomes a space, and of several the first is
dropped.
-/

namespace DebugSymbols.Yaml

/-- The blanks or breaks since the last word, latest first, and whether the first break was
escaped. -/
structure Gap where
  blanks : List Char := []
  breaks : List Char := []
  escaped : Bool := false
  deriving DecidableEq, Repr

namespace Gap

def crossesLine (gap : Gap) : Bool :=
  gap.escaped || !gap.breaks.isEmpty

def isEmpty (gap : Gap) : Bool :=
  gap.blanks.isEmpty && !gap.crossesLine

/-- Blanks at the start of a line do not count. -/
def addBlank (gap : Gap) (character : Char) : Gap :=
  if gap.crossesLine then gap else { gap with blanks := character :: gap.blanks }

/-- Blanks at the end of a line do not count. -/
def addBreak (gap : Gap) (character : Char) : Gap :=
  { gap with blanks := [], breaks := character :: gap.breaks }

/-- What stands for the gap in the scalar, latest first. -/
def folded (gap : Gap) : List Char :=
  if gap.escaped then gap.breaks
  else
    match gap.breaks with
    | [] => gap.blanks
    | ['\n'] => [' ']
    | breaks => if breaks.getLast? = some '\n' then breaks.dropLast else breaks

end Gap

end DebugSymbols.Yaml
