/-!
# Kinds of declared data

A data declaration says of what elements it is made.  Traces, listings and
symbol files name the kind by the same tag of three letters.
-/

namespace DebugSymbols

inductive DataKind where
  | byte
  | half
  | word
  | ascii
  deriving DecidableEq, Repr

namespace DataKind

def tag : DataKind → String
  | .byte => "byt"
  | .half => "wrd"
  | .word => "dbl"
  | .ascii => "asc"

def ofTag? : String → Option DataKind
  | "byt" => some .byte
  | "wrd" => some .half
  | "dbl" => some .word
  | "asc" => some .ascii
  | _ => none

theorem ofTag?_eq_some_iff {text : String} {kind : DataKind} :
    ofTag? text = some kind ↔ text = kind.tag := by
  constructor
  · intro read
    unfold ofTag? at read
    split at read <;> cases read <;> rfl
  · intro same
    subst same
    cases kind <;> rfl

end DataKind

end DebugSymbols
