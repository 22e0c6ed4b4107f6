/-!
# Blank characters and words

The blank characters are those with the Unicode property White_Space, twenty
five in all.  The words of a text are its longest runs of other characters.
-/

namespace DebugSymbols.Text

/-- The code points with the property White_Space as closed ranges, ascending and apart. -/
def blankRanges : List (Nat × Nat) :=
  [(0x09, 0x0D), (0x20, 0x20), (0x85, 0x85), (0xA0, 0xA0), (0x1680, 0x1680), (0x2000, 0x200A),
    (0x2028, 0x2029), (0x202F, 0x202F), (0x205F, 0x205F), (0x3000, 0x3000)]

def isBlank (character : Char) : Bool :=
  blankRanges.any fun range => range.1 ≤ character.toNat && character.toNat ≤ range.2

/-- The longest runs of characters that are not blank, in order. -/
def words (text : List Char) : List (List Char) :=
  match _remaining : text.dropWhile isBlank with
  | [] => []
  | first :: rest =>
      (first :: rest.takeWhile fun character => !isBlank character) ::
        words (rest.dropWhile fun character => !isBlank character)
termination_by text.length
decreasing_by
  have shorter := (List.dropWhile_sublist (l := text) isBlank).length_le
  have tail := (List.dropWhile_sublist (l := rest) fun character => !isBlank character).length_le
  rw [_remaining, List.length_cons] at shorter
  omega

end DebugSymbols.Text
