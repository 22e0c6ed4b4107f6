import DebugSymbols.Numeral
/-!
# Numbers in traces

A number is an optional minus sign, an optional radix mark, one more optional
sign and a numeral.  The signed numeral has to fit in 64 bits before the first
minus sign is applied.
-/

namespace DebugSymbols.Trace

/-- The radix that a text announces, and the text behind the mark.  Without a mark it is ten. -/
def radixMark : List Char → Radix × List Char
  | '0' :: 'b' :: rest => (.binary, rest)
  | '0' :: 'o' :: rest => (.octal, rest)
  | '0' :: 'x' :: rest => (.hexadecimal, rest)
  | text => (.decimal, text)

def word64? (value : Int) : Option Int64 :=
  if Int64.minValue.toInt ≤ value ∧ value ≤ Int64.maxValue.toInt then some (Int64.ofInt value)
  else none

def marked? (text : List Char) : Option Int64 :=
  let (radix, digits) := radixMark text
  (radix.readSigned? digits).bind word64?

/-- The value of a number.  Negation wraps around: the least word is its own, and arithmetic with
overflow checks, which would stop there, is not what is meant. -/
def number? : List Char → Option Int64
  | '-' :: rest => (marked? rest).map fun value => -value
  | text => marked? text

/-- The value of a line number, which has no minus sign and has to fit in 64 bits. -/
def lineNumber? (text : List Char) : Option Nat :=
  (Radix.decimal.readUnsigned? text).filter (· < UInt64.size)

end DebugSymbols.Trace
