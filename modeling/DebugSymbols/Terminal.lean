import DebugSymbols.Numeral
/-!
# Styled terminal text

A style is switched on and off by an escape sequence that holds its code.
Several styles of one text open in the given order and close in the same order.
-/

namespace DebugSymbols

inductive Style where
  | red
  | green
  | yellow
  | blue
  | cyan
  | bold
  | underline
  deriving DecidableEq, Repr

namespace Style

def start : Style → Nat
  | .red => 31
  | .green => 32
  | .yellow => 33
  | .blue => 34
  | .cyan => 36
  | .bold => 1
  | .underline => 4

def stop : Style → Nat
  | .bold => 22
  | .underline => 24
  | _ => 39

end Style

def escapeSequence (code : Nat) : String :=
  "\x1b[" ++ decimal code ++ "m"

def styled (styles : List Style) (text : String) : String :=
  String.join (styles.map fun style => escapeSequence style.start) ++ text ++
    String.join (styles.map fun style => escapeSequence style.stop)

end DebugSymbols
