import DebugSymbols.Text.Utf8
/-!
# Texts cut at octets

A text can be cut between any two of its octets that belong to different
characters.  A cut that leaves a text in front leaves one behind as well.
-/

namespace DebugSymbols.Text

/-- The text in the octets before an index, absent if there are fewer or if a character goes on
behind them. -/
def textTo? (text : String) (index : Nat) : Option String :=
  if index ≤ (encode text).length then decode? ((encode text).take index) else none

/-- The text in the octets from an index on, absent if there are none or if a character begins
before them. -/
def textFrom? (text : String) (index : Nat) : Option String :=
  if index ≤ (encode text).length then decode? ((encode text).drop index) else none

/-- A text whose octets begin with those of another begins with that text. -/
theorem exists_eq_append_of_encode {text front : String} {octets : List UInt8}
    (same : encode text = encode front ++ octets) : ∃ rest, text = front ++ rest := by
  have arrays := congrArg List.toByteArray same
  rw [List.toByteArray_append, toByteArray_encode, toByteArray_encode,
    ← String.utf8Encode_toList, ← String.utf8Encode_toList] at arrays
  obtain ⟨rest, whole⟩ := List.isPrefix_of_utf8Encode_append_eq_utf8Encode _ arrays.symm
  refine ⟨String.ofList rest, ?_⟩
  rw [← String.toList_inj, String.toList_append, String.toList_ofList, whole]

theorem textTo?_eq_some_iff {text front : String} {index : Nat} :
    textTo? text index = some front ↔
      ∃ rest, text = front ++ rest ∧ (encode front).length = index := by
  rw [textTo?]
  constructor
  · intro cut
    split at cut
    case isTrue inside =>
      have before := encode_of_decode? cut
      have whole : encode text = encode front ++ (encode text).drop index := by
        rw [before, List.take_append_drop]
      obtain ⟨rest, same⟩ := exists_eq_append_of_encode whole
      refine ⟨rest, same, ?_⟩
      rw [before, List.length_take]
      omega
    case isFalse => cases cut
  · rintro ⟨rest, rfl, rfl⟩
    rw [encode_append, List.length_append, if_pos (Nat.le_add_right _ _), List.take_left,
      decode?_encode]

/-- Behind a text in front there is a text. -/
theorem textFrom?_append (front rest : String) :
    textFrom? (front ++ rest) (encode front).length = some rest := by
  rw [textFrom?, encode_append, List.length_append, if_pos (Nat.le_add_right _ _), List.drop_left,
    decode?_encode]

end DebugSymbols.Text
