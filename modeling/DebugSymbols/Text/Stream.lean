import DebugSymbols.Text.Utf8
/-!
# Reading octets line by line

A line ends behind a newline, and a carriage return right before the newline is
no part of it.  The last line needs no newline.  Reading stops at the first
line that cannot be read, because it is no text or because the octets cannot be
had.
-/

namespace DebugSymbols.Text

/-- The octets that can be read, and whether reading fails where they end. -/
structure Stream where
  octets : List UInt8
  broken : Bool := false
  deriving DecidableEq, Repr, Inhabited

def newline : UInt8 := 0x0A

def carriageReturn : UInt8 := 0x0D

def trimReturn (line : List UInt8) : List UInt8 :=
  if line.getLast? = some carriageReturn then line.dropLast else line

namespace Stream

def text? (stream : Stream) : Option String :=
  if stream.broken then none else decode? stream.octets

/-- The lines of some octets.  The last one is absent if it cannot be read. -/
def linesOf (broken : Bool) (octets : List UInt8) : List (Option String) :=
  match _rest : octets.dropWhile (· ≠ newline) with
  | _ :: behind =>
      match decode? (trimReturn (octets.takeWhile (· ≠ newline))) with
      | some line => some line :: linesOf broken behind
      | none => [none]
  | [] =>
      if broken then [none]
      else if octets.isEmpty then []
      else [decode? octets]
termination_by octets.length
decreasing_by
  have shorter := (List.dropWhile_sublist (l := octets) (· ≠ newline)).length_le
  rw [_rest, List.length_cons] at shorter
  omega

/-- The lines of a stream up to and including the first that cannot be read, which is absent. -/
def lines (stream : Stream) : List (Option String) :=
  linesOf stream.broken stream.octets

end Stream

end DebugSymbols.Text
