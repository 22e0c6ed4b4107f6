import DebugSymbols.Yaml.Scalar.Gap
/-!
# Plain scalars

A plain scalar has no quotes.  It goes on over several lines as long as they
are indented, and ends before a comment, before a colon that ends a word and,
inside brackets, before a comma or a bracket.
-/

namespace DebugSymbols.Yaml.Plain

def isFlowIndicator (character : Char) : Bool :=
  [',', '[', ']', '{', '}'].contains character

/-- The characters with which a plain scalar does not start unless a word goes on behind them. -/
def isIndicator (character : Char) : Bool :=
  ['-', '?', ':', ',', '[', ']', '{', '}', '#', '&', '*', '!', '|', '>', '\'', '"', '%', '@',
    '\x60'].contains character

def starts (inFlow : Bool) (first : Char) (next : Option Char) : Bool :=
  !(isIndicator first || isSpace (some first)) ||
    (first == '-' && !isSpace next) ||
    (!inFlow && (first == '?' || first == ':') && !isSpace next)

def ends (inFlow : Bool) (character : Char) (next : Option Char) : Bool :=
  (character == ':' && isSpace next) || (inFlow && isFlowIndicator character)

/-- Whether a colon inside brackets stands before a character that it must not stand before. -/
def clashes (inFlow : Bool) (character : Char) (next : Option Char) : Bool :=
  inFlow && character == ':' && next.any fun behind => behind == '?' || isFlowIndicator behind

/-- A plain scalar, where it ends, and whether blank lines or an end of line were passed behind
its last word. -/
structure Found where
  text : List Char
  cursor : Cursor
  crossed : Bool
  deriving DecidableEq, Repr

/-- Whether a character behind a gap ends the scalar: on a line that is not indented, in a line that
starts or ends the document, or at the start of a comment. -/
def endsBehind (inFlow : Bool) (margin : Nat) (gap : Gap) (column : Nat) (rest : List Char) :
    Bool :=
  !gap.isEmpty && ((!inFlow && column < margin) || rest.head? == some '#') || atMarker column rest

/-- Reads on after the characters found so far, latest first, and a gap. -/
def scan (inFlow : Bool) (margin : Nat) (found : List Char) (gap : Gap) (line column : Nat) :
    List Char → Option Found
  | [] => some ⟨found.reverse, ⟨[], line, column⟩, gap.crossesLine⟩
  | character :: rest =>
      if isBlank character then
        if character == '\t' && gap.crossesLine && column < margin then none
        else scan inFlow margin found (gap.addBlank character) line (column + 1) rest
      else if isBreak character then
        scan inFlow margin found (gap.addBreak character) (line + 1) 0 rest
      else if endsBehind inFlow margin gap column (character :: rest) ||
          ends inFlow character rest.head? then
        some ⟨found.reverse, ⟨character :: rest, line, column⟩, gap.crossesLine⟩
      else if clashes inFlow character rest.head? then none
      else
        scan inFlow margin (character :: (gap.folded ++ found)) {} line (column + 1) rest

def read? (inFlow : Bool) (margin : Nat) (cursor : Cursor) : Option Found :=
  scan inFlow margin [] {} cursor.line cursor.column cursor.rest

end DebugSymbols.Yaml.Plain
