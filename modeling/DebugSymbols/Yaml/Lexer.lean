import DebugSymbols.Yaml.Scalar.Block
import DebugSymbols.Yaml.Scalar.Plain
import DebugSymbols.Yaml.Scalar.Quoted
import DebugSymbols.Yaml.Token
/-!
# Cutting a document into tokens

Whether a scalar or a bracket is a key is only known at the colon behind it.
The lexer therefore remembers where a key may have started, one place for each
level of brackets, and puts the key token there when it meets the colon.  Such
a key ends on its line within 1024 octets.  Tags, anchors, aliases and
directives are refused.
-/

namespace DebugSymbols.Yaml

/-- A place where a key may have started, how many tokens precede it, and whether the block cannot
go on without it. -/
structure PossibleKey where
  place : Cursor
  index : Nat
  required : Bool
  deriving DecidableEq, Repr

/-- The most octets from the start of a key that is not marked as one to the colon behind it. -/
def keyLimit : Nat := 1024

namespace PossibleKey

def isStale (key : PossibleKey) (cursor : Cursor) : Bool :=
  key.place.line < cursor.line || keyLimit < key.place.octetsBetween cursor

end PossibleKey

/-- The lexer's state.  The margins are those of the open blocks, innermost first: the least column
at which content belongs to the block's entries.  Each level of brackets has a slot for a key; that
of the innermost is apart from the outer ones. -/
structure Lexer where
  cursor : Cursor
  tokens : List Token := []
  margins : List Nat := []
  key : Option PossibleKey := none
  outerKeys : List (Option PossibleKey) := []
  keyAllowed : Bool := true
  deriving DecidableEq, Repr

namespace Lexer

def inFlow (lexer : Lexer) : Bool :=
  !lexer.outerKeys.isEmpty

def margin (lexer : Lexer) : Nat :=
  lexer.margins.headD 0

def emit (lexer : Lexer) (token : Token) : Lexer :=
  { lexer with tokens := lexer.tokens ++ [token] }

def emitAt (lexer : Lexer) (index : Nat) (token : Token) : Lexer :=
  { lexer with tokens := lexer.tokens.take index ++ token :: lexer.tokens.drop index }

def pass (lexer : Lexer) (count : Nat) : Lexer :=
  { lexer with cursor := lexer.cursor.pass count }

/-- Opens a block whose entries start at a column, unless one is open there already. -/
def openBlock (lexer : Lexer) (index column : Nat) (token : Token) : Lexer :=
  if !lexer.inFlow && lexer.margin ≤ column then
    { lexer.emitAt index token with margins := (column + 1) :: lexer.margins }
  else lexer

def closeMargins (limit : Nat) : List Nat → Nat × List Nat
  | [] => (0, [])
  | margin :: rest =>
      if limit < margin then
        let (closed, left) := closeMargins limit rest
        (closed + 1, left)
      else (0, margin :: rest)

/-- Closes the blocks to which content below a limit does not belong. -/
def closeBlocks (lexer : Lexer) (limit : Nat) : Lexer :=
  if lexer.inFlow then lexer
  else
    let (closed, left) := closeMargins limit lexer.margins
    { lexer with tokens := lexer.tokens ++ List.replicate closed .blockEnd, margins := left }

/-- Gives up a possible key, which fails if it was required. -/
def abandon? : Option PossibleKey → Option (Option PossibleKey)
  | some key => if key.required then none else some none
  | none => some none

def refreshKeys? (lexer : Lexer) : Option Lexer := do
  let refresh := fun (key : Option PossibleKey) =>
    if key.any (·.isStale lexer.cursor) then abandon? key else some key
  let key ← refresh lexer.key
  let outerKeys ← lexer.outerKeys.mapM refresh
  return { lexer with key := key, outerKeys := outerKeys }

def dropKey? (lexer : Lexer) : Option Lexer :=
  (abandon? lexer.key).map fun key => { lexer with key := key }

def saveKey? (lexer : Lexer) : Option Lexer :=
  if lexer.keyAllowed then
    lexer.dropKey?.map fun dropped =>
      { dropped with
        key := some
          { place := lexer.cursor
            index := lexer.tokens.length
            required := !lexer.inFlow && lexer.margin == lexer.cursor.column + 1 } }
  else some lexer

/-- Passes blanks, comments and breaks, and a byte order mark at the start of a line, which takes up
a column.  Where a key may start, a tab is no blank, and outside of brackets a key may start on
every line. -/
def seek (inFlow inComment keyAllowed : Bool) (line column : Nat) : List Char → Bool × Cursor
  | [] => (keyAllowed, ⟨[], line, column⟩)
  | character :: rest =>
      if isBreak character then seek inFlow false (keyAllowed || !inFlow) (line + 1) 0 rest
      else if column == 0 && character == byteOrderMark then
        seek inFlow inComment keyAllowed line (column + 1) rest
      else if inComment || character == ' ' || (character == '\t' && (inFlow || !keyAllowed)) then
        seek inFlow inComment keyAllowed line (column + 1) rest
      else if character == '#' then seek inFlow true keyAllowed line (column + 1) rest
      else (keyAllowed, ⟨character :: rest, line, column⟩)

def approach? (lexer : Lexer) : Option Lexer :=
  let cursor := lexer.cursor
  let (keyAllowed, next) :=
    seek lexer.inFlow false lexer.keyAllowed cursor.line cursor.column cursor.rest
  let arrived := { lexer with cursor := next, keyAllowed := keyAllowed }
  arrived.refreshKeys?.map fun fresh => fresh.closeBlocks (next.column + 1)

/-- A line that starts or ends a document closes all blocks. -/
def readMarker? (lexer : Lexer) (marker : Marker) : Option Lexer := do
  let lexer ← (lexer.closeBlocks 0).dropKey?
  let token := match marker with
    | .documentStart => Token.documentStart
    | .documentEnd => Token.documentEnd
  return { (lexer.emit token).pass 3 with keyAllowed := false }

/-- An opening bracket may be the start of a key, and a key may start behind it. -/
def readOpening? (lexer : Lexer) (token : Token) : Option Lexer := do
  let lexer ← lexer.saveKey?
  return { (lexer.emit token).pass 1 with
    key := none, outerKeys := lexer.key :: lexer.outerKeys, keyAllowed := true }

def readClosing? (lexer : Lexer) (token : Token) : Option Lexer := do
  let lexer ← lexer.dropKey?
  let closed := { (lexer.emit token).pass 1 with keyAllowed := false }
  match lexer.outerKeys with
  | [] => return closed
  | key :: outerKeys => return { closed with key := key, outerKeys := outerKeys }

def readFlowEntry? (lexer : Lexer) : Option Lexer := do
  let lexer ← lexer.dropKey?
  return { (lexer.emit .flowEntry).pass 1 with keyAllowed := true }

/-- An indicator that opens a block at its column where none is open there.  Outside of brackets it
stands only where a key may start. -/
def openAtIndicator? (lexer : Lexer) (token : Token) : Option Lexer :=
  if lexer.inFlow then some lexer
  else if lexer.keyAllowed then
    some (lexer.openBlock lexer.tokens.length lexer.cursor.column token)
  else none

def readBlockEntry? (lexer : Lexer) : Option Lexer := do
  let lexer ← (← lexer.openAtIndicator? .blockSequenceStart).dropKey?
  return { (lexer.emit .blockEntry).pass 1 with keyAllowed := true }

def readKey? (lexer : Lexer) : Option Lexer := do
  let lexer ← (← lexer.openAtIndicator? .blockMappingStart).dropKey?
  return { (lexer.emit .key).pass 1 with keyAllowed := !lexer.inFlow }

/-- A colon makes a key of what has been remembered as possible. -/
def readValue? (lexer : Lexer) : Option Lexer :=
  match lexer.key with
  | some key =>
      let keyed :=
        (lexer.emitAt key.index .key).openBlock key.index key.place.column .blockMappingStart
      some { (keyed.emit .value).pass 1 with key := none, keyAllowed := false }
  | none => do
      let lexer ← lexer.openAtIndicator? .blockMappingStart
      return { (lexer.emit .value).pass 1 with keyAllowed := !lexer.inFlow }

def readBlockScalar? (lexer : Lexer) (literal : Bool) : Option Lexer := do
  let lexer ← lexer.dropKey?
  let (text, cursor) ← Block.read? literal lexer.margin lexer.cursor
  return { lexer.emit (.scalar false (String.ofList text)) with
    cursor := cursor, keyAllowed := true }

def readQuoted? (lexer : Lexer) (quote : Quoted.Quote) : Option Lexer := do
  let lexer ← lexer.saveKey?
  let (text, cursor) ← Quoted.read? quote lexer.cursor
  return { lexer.emit (.scalar false (String.ofList text)) with
    cursor := cursor, keyAllowed := false }

/-- A key may start behind a plain scalar only if the scalar went on to another line. -/
def readPlain? (lexer : Lexer) : Option Lexer := do
  let lexer ← lexer.saveKey?
  let found ← Plain.read? lexer.inFlow lexer.margin lexer.cursor
  return { lexer.emit (.scalar true (String.ofList found.text)) with
    cursor := found.cursor, keyAllowed := found.crossed }

def readFrom? (lexer : Lexer) (first : Char) (next : Option Char) : Option Lexer :=
  match first with
  | '[' => lexer.readOpening? .flowSequenceStart
  | '\x7b' => lexer.readOpening? .flowMappingStart
  | ']' => lexer.readClosing? .flowSequenceEnd
  | '\x7d' => lexer.readClosing? .flowMappingEnd
  | ',' => lexer.readFlowEntry?
  | '\'' => lexer.readQuoted? .single
  | '"' => lexer.readQuoted? .double
  | _ =>
      if first == '-' && isSpace next then lexer.readBlockEntry?
      else if first == '?' && (lexer.inFlow || isSpace next) then lexer.readKey?
      else if first == ':' && (lexer.inFlow || isSpace next) then lexer.readValue?
      else if first == '|' && !lexer.inFlow then lexer.readBlockScalar? true
      else if first == '>' && !lexer.inFlow then lexer.readBlockScalar? false
      else if Plain.starts lexer.inFlow first next then lexer.readPlain?
      else none

def readToken? (lexer : Lexer) : Option Lexer :=
  match lexer.cursor.rest with
  | [] => none
  | first :: rest =>
      if lexer.cursor.column = 0 then
        match marker? (first :: rest) with
        | some marker => lexer.readMarker? marker
        | none => if first = '%' then none else lexer.readFrom? first rest.head?
      else lexer.readFrom? first rest.head?

/-- Reads up to the end of the document, at most the given number of tokens. -/
def finish? : Nat → Lexer → Option (List Token)
  | 0, _ => none
  | fuel + 1, lexer => do
      let lexer ← lexer.approach?
      if lexer.cursor.rest.isEmpty then
        let closed ← (lexer.closeBlocks 0).dropKey?
        return closed.tokens
      else finish? fuel (← lexer.readToken?)

end Lexer

/-- The tokens of a document.  Each takes at least one character, so there are no more than
characters. -/
def tokens? (text : String) : Option (List Token) := do
  let characters ← characters? text
  Lexer.finish? (characters.length + 1) { cursor := { rest := characters } }

end DebugSymbols.Yaml
