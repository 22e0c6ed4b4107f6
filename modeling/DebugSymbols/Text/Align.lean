/-!
# Texts of a least width

A text shorter than the width is filled up on one side.  A longer one is left
as it is.
-/

namespace DebugSymbols.Text

def padLeft (width : Nat) (filler : Char) (text : List Char) : List Char :=
  List.replicate (width - text.length) filler ++ text

theorem length_padLeft (width : Nat) (filler : Char) (text : List Char) :
    (padLeft width filler text).length = max width text.length := by
  simp [padLeft]
  omega

def alignRight (width : Nat) (text : String) : String :=
  String.ofList (padLeft width ' ' text.toList)

def alignLeft (width : Nat) (text : String) : String :=
  String.ofList (text.toList ++ List.replicate (width - text.length) ' ')

end DebugSymbols.Text
