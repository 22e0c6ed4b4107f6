import DebugSymbols.Sink
import DebugSymbols.SymbolFile.Entry
import DebugSymbols.Text.Utf8
/-!
# The text of a symbol file

A file opens with a fixed header line, lists its entries one a line, each
address in eight hexadecimal digits, and ends with a single terminator.  It is
written piece by piece, so a sink that fails has taken the file's beginning.
-/

namespace DebugSymbols.SymbolFile

def header : String := "00000000 0\n"

def terminator : String := "\x1a"

def Entry.digits (entry : Entry) : String :=
  upperHex 8 entry.address.toUInt32.toNat

def Entry.pieces (entry : Entry) : List String :=
  [entry.digits, " ", entry.text, "\n"]

def pieces (entries : List Entry) : List String :=
  header :: entries.flatMap Entry.pieces ++ [terminator]

def text (entries : List Entry) : String :=
  String.join (pieces entries)

/-- Writes a file to a sink and flushes it, and says whether everything went well. -/
def writeTo (sink : Sink) (entries : List Entry) : Bool × Sink :=
  match sink.writeAll ((pieces entries).map Text.encode) with
  | (true, after) => (after.flushes, after)
  | (false, after) => (false, after)

end DebugSymbols.SymbolFile
