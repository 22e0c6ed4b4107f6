import DebugSymbols.Numeral
import DebugSymbols.Yaml.Scalar.Gap
/-!
# Quoted scalars

Between single quotes only a doubled quote stands for something else.  Between
double quotes a backslash starts an escape sequence, or joins two lines.
-/

namespace DebugSymbols.Yaml.Quoted

inductive Quote where
  | single
  | double
  deriving DecidableEq, Repr

def Quote.character : Quote → Char
  | .single => '\''
  | .double => '"'

/-- What the next character is read as: text, the second of two quotes, the letter of an escape
sequence, or one of the digits left in a character code. -/
inductive Mode where
  | text
  | repeated
  | escape
  | code (remaining value : Nat)
  deriving DecidableEq, Repr

def escape? : Char → Option Char
  | '0' => some '\x00'
  | 'a' => some '\x07'
  | 'b' => some '\x08'
  | 't' | '\t' => some '\t'
  | 'n' => some '\n'
  | 'v' => some '\x0b'
  | 'f' => some '\x0c'
  | 'r' => some '\r'
  | 'e' => some '\x1b'
  | ' ' => some ' '
  | '"' => some '"'
  | '/' => some '/'
  | '\\' => some '\\'
  | 'N' => some '\x85'
  | '_' => some '\xa0'
  | 'L' => some '\u2028'
  | 'P' => some '\u2029'
  | _ => none

/-- How many hexadecimal digits follow the letter of an escape sequence. -/
def codeLength? : Char → Option Nat
  | 'x' => some 2
  | 'u' => some 4
  | 'U' => some 8
  | _ => none

def ofCode? (code : Nat) : Option Char :=
  if code.isValidChar then some (Char.ofNat code) else none

/-- Reads on after the characters found so far, latest first, and a gap, up to the closing
quote. -/
def scan (quote : Quote) (mode : Mode) (found : List Char) (gap : Gap) (line column : Nat) :
    List Char → Option (List Char × Cursor)
  | [] => none
  | character :: rest =>
      let word := gap.folded ++ found
      match mode with
      | .repeated => scan quote .text (character :: word) {} line (column + 1) rest
      | .escape =>
          if isBreak character then
            scan quote .text found { escaped := true } (line + 1) 0 rest
          else
            match escape? character, codeLength? character with
            | some meant, _ => scan quote .text (meant :: word) {} line (column + 1) rest
            | none, some length => scan quote (.code length 0) word {} line (column + 1) rest
            | none, none => none
      | .code remaining value =>
          match Radix.hexadecimal.digit? character with
          | none => none
          | some digit =>
              let code := value * 16 + digit
              if 1 < remaining then
                scan quote (.code (remaining - 1) code) found gap line (column + 1) rest
              else
                match ofCode? code with
                | none => none
                | some meant => scan quote .text (meant :: word) {} line (column + 1) rest
      | .text =>
          if isBlank character then
            scan quote .text found (gap.addBlank character) line (column + 1) rest
          else if isBreak character then
            scan quote .text found (gap.addBreak character) (line + 1) 0 rest
          else if atMarker column (character :: rest) then none
          else if character == quote.character then
            if quote == .single && rest.head? == some '\'' then
              scan quote .repeated word {} line (column + 1) rest
            else some (word.reverse, ⟨rest, line, column + 1⟩)
          else if quote == .double && character == '\\' then
            scan quote .escape word {} line (column + 1) rest
          else scan quote .text (character :: word) {} line (column + 1) rest

def read? (quote : Quote) (cursor : Cursor) : Option (List Char × Cursor) :=
  let inside := cursor.pass 1
  scan quote .text [] {} inside.line inside.column inside.rest

end DebugSymbols.Yaml.Quoted
