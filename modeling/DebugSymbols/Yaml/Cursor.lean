/-!
# Characters of a document and a place among them

A document is read as characters in which every line break but the two Unicode
separators has become a newline.  A cursor holds what is left of it and counts
lines and columns, since nesting is told by columns.
-/

namespace DebugSymbols.Yaml

def isAllowed (character : Char) : Bool :=
  let code := character.toNat
  code == 0x09 || code == 0x0A || code == 0x0D || (0x20 ≤ code && code ≤ 0x7E) || code == 0x85 ||
    (0xA0 ≤ code && code ≤ 0xFFFD) || 0x10000 ≤ code

/-- Writes a newline for every carriage return, newline, pair of the two and next line. -/
def unifyBreaks : List Char → List Char
  | [] => []
  | '\r' :: '\n' :: rest => '\n' :: unifyBreaks rest
  | '\r' :: rest => '\n' :: unifyBreaks rest
  | '\x85' :: rest => '\n' :: unifyBreaks rest
  | character :: rest => character :: unifyBreaks rest

def characters? (text : String) : Option (List Char) :=
  if text.toList.all isAllowed then some (unifyBreaks text.toList) else none

def isBlank (character : Char) : Bool :=
  character == ' ' || character == '\t'

def isBreak (character : Char) : Bool :=
  character == '\n' || character == '\u2028' || character == '\u2029'

/-- Whether a word ends before what comes next: a blank, a break or nothing. -/
def isSpace (next : Option Char) : Bool :=
  match next with
  | none => true
  | some character => isBlank character || isBreak character

/-- A byte order mark, which may stand at the start of every line between tokens. -/
def byteOrderMark : Char := '\ufeff'

/-- What is left of a document, and the line and column at which it starts. -/
structure Cursor where
  rest : List Char
  line : Nat := 0
  column : Nat := 0
  deriving DecidableEq, Repr

namespace Cursor

def pass (cursor : Cursor) (count : Nat) : Cursor :=
  { cursor with rest := cursor.rest.drop count, column := cursor.column + count }

def octetsBetween (first second : Cursor) : Nat :=
  (first.rest.take (second.column - first.column)).foldr
    (fun character octets => character.utf8Size + octets) 0

end Cursor

inductive Marker where
  | documentStart
  | documentEnd
  deriving DecidableEq, Repr

def marker? (line : List Char) : Option Marker :=
  match line with
  | '-' :: '-' :: '-' :: rest => if isSpace rest.head? then some .documentStart else none
  | '.' :: '.' :: '.' :: rest => if isSpace rest.head? then some .documentEnd else none
  | _ => none

def atMarker (column : Nat) (rest : List Char) : Bool :=
  column == 0 && (marker? rest).isSome

end DebugSymbols.Yaml
