import DebugSymbols.Yaml.Scalar.Gap
/-!
# Block scalars

A block scalar is a run of lines that are all indented.  A literal one keeps
its breaks, a folded one joins lines that do not start with a blank.  Its header
says what becomes of the breaks at its end, and how far it is indented if that
is not to be told from its first line.
-/

namespace DebugSymbols.Yaml.Block

/-- What becomes of the breaks at the end: all dropped, one kept, or all kept. -/
inductive Chomping where
  | strip
  | clip
  | keep
  deriving DecidableEq, Repr

structure Header where
  chomping : Chomping := .clip
  indentation : Option Nat := none
  deriving DecidableEq, Repr

def chomping? : Char → Option Chomping
  | '+' => some .keep
  | '-' => some .strip
  | _ => none

def digit? (character : Char) : Option Nat :=
  if character.isDigit then some (character.toNat - '0'.toNat) else none

def indicators : List Char → Header × List Char
  | [] => ({}, [])
  | first :: rest =>
      match chomping? first, digit? first with
      | some chomping, _ =>
          match rest.head?.bind digit? with
          | some digit => (⟨chomping, some digit⟩, rest.tail)
          | none => (⟨chomping, none⟩, rest)
      | none, some digit =>
          match rest.head?.bind chomping? with
          | some chomping => (⟨chomping, some digit⟩, rest.tail)
          | none => (⟨.clip, some digit⟩, rest)
      | none, none => ({}, first :: rest)

/-- The header on a line.  Behind its indicators there is room for a comment only. -/
def header? (line : List Char) : Option Header :=
  let (header, rest) := indicators line
  if header.indentation = some 0 then none
  else
    match rest.dropWhile isBlank with
    | [] | '#' :: _ => some header
    | _ => none

/-- The indentation of the first line that is not empty, or of a longer empty one before it. -/
def detect? (best column : Nat) : List Char → Option Nat
  | [] => some (max best column)
  | character :: rest =>
      if character == ' ' then detect? best (column + 1) rest
      else if character == '\t' then none
      else if isBreak character then detect? (max best column) 0 rest
      else some (max best column)

/-- What has been read of a block: its text, the break that ended its last line, the breaks of
empty lines since, and whether its last line started with a blank.  All lists are latest first. -/
structure Progress where
  text : List Char := []
  ending : List Char := []
  empty : List Char := []
  indented : Bool := false
  deriving DecidableEq, Repr

namespace Progress

def join (progress : Progress) (literal : Bool) (first : Char) : List Char :=
  let folds := !literal && progress.ending == ['\n'] && !progress.indented && !isBlank first
  let ending := if !folds then progress.ending else if progress.empty.isEmpty then [' '] else []
  progress.empty ++ ending ++ progress.text

def finish (progress : Progress) : Chomping → List Char
  | .strip => progress.text.reverse
  | .clip => (progress.ending ++ progress.text).reverse
  | .keep => (progress.empty ++ progress.ending ++ progress.text).reverse

end Progress

def scan (literal : Bool) (indentation : Nat) (progress : Progress) (inLine : Bool)
    (line column : Nat) : List Char → Option (Progress × Cursor)
  | [] => some (progress, ⟨[], line, column⟩)
  | character :: rest =>
      if inLine then
        if isBreak character then
          scan literal indentation { progress with ending := [character], empty := [] } false
            (line + 1) 0 rest
        else
          scan literal indentation { progress with text := character :: progress.text } true line
            (column + 1) rest
      else if character == ' ' && column < indentation then
        scan literal indentation progress false line (column + 1) rest
      else if character == '\t' && column < indentation then none
      else if isBreak character then
        scan literal indentation { progress with empty := character :: progress.empty } false
          (line + 1) 0 rest
      else if column == indentation then
        scan literal indentation
          { text := character :: progress.join literal character, indented := isBlank character }
          true line (column + 1) rest
      else some (progress, ⟨character :: rest, line, column⟩)

/-- Reads a scalar from its indicator on, in a block whose content starts at the margin. -/
def read? (literal : Bool) (margin : Nat) (cursor : Cursor) : Option (List Char × Cursor) := do
  let behind := cursor.rest.tail
  let header ← header? (behind.takeWhile fun character => !isBreak character)
  let body := (behind.dropWhile fun character => !isBreak character).tail
  let indentation ←
    match header.indentation with
    | some more => some (margin - 1 + more)
    | none => (detect? 0 0 body).map fun found => max found (max margin 1)
  let (progress, after) ← scan literal indentation {} false (cursor.line + 1) 0 body
  return (progress.finish header.chomping, after)

end DebugSymbols.Yaml.Block
