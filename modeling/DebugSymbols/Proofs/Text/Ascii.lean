import DebugSymbols.Text.Stream
/-!
# ASCII in UTF-8

An octet below 128 stands for the ASCII character of that number and is part of
no other character.  Such a character therefore occurs in a text as often as
its octet occurs in the octets of the text.
-/

namespace DebugSymbols.Text

theorem utf8EncodeChar_of_small {character : Char} (small : character.toNat < 128) :
    String.utf8EncodeChar character = [UInt8.ofNat character.toNat] :=
  if_pos (Nat.le_of_lt_succ small)

/-- Octets of longer sequences are all beyond ASCII. -/
theorem le_of_mem_utf8EncodeChar {character : Char} (large : 128 ≤ character.toNat)
    {octet : UInt8} (member : octet ∈ String.utf8EncodeChar character) : 128 ≤ octet.toNat := by
  have marked : ∀ {value offset : Nat}, 128 ≤ offset → value + offset < 256 →
      128 ≤ (UInt8.ofNat (value + offset)).toNat := by
    intro value offset low high
    rw [UInt8.toNat_ofNat', Nat.mod_eq_of_lt high]
    omega
  have several : ¬character.val.toNat ≤ 127 := Nat.not_le.2 large
  simp only [String.utf8EncodeChar, if_neg several] at member
  split at member
  · simp only [List.mem_cons, List.not_mem_nil, or_false] at member
    rcases member with rfl | rfl
    all_goals exact marked (by decide) (by omega)
  · split at member
    · simp only [List.mem_cons, List.not_mem_nil, or_false] at member
      rcases member with rfl | rfl | rfl
      all_goals exact marked (by decide) (by omega)
    · simp only [List.mem_cons, List.not_mem_nil, or_false] at member
      rcases member with rfl | rfl | rfl | rfl
      all_goals exact marked (by decide) (by omega)

/-- The octet is that of an ASCII character. -/
structure IsAscii (octet : UInt8) (character : Char) : Prop where
  small : octet.toNat < 128
  same : octet.toNat = character.toNat

namespace IsAscii

variable {octet : UInt8} {character : Char}

theorem newline : IsAscii newline '\n' :=
  ⟨by decide, by decide⟩

theorem count_utf8EncodeChar (ascii : IsAscii octet character) (other : Char) :
    (String.utf8EncodeChar other).count octet = [other].count character := by
  have small := ascii.small
  by_cases single : other.toNat < 128
  · have same : UInt8.ofNat other.toNat = octet ↔ other = character := by
      rw [← UInt8.toNat_inj, UInt8.toNat_ofNat', Nat.mod_eq_of_lt (by omega), ascii.same,
        Char.toNat_inj]
    rw [utf8EncodeChar_of_small single]
    simp [List.count_singleton, same]
  · have several : 128 ≤ other.toNat := Nat.not_lt.1 single
    have apart : character ∉ [other] := by
      intro member
      have same := ascii.same
      rw [List.mem_singleton.1 member] at same
      omega
    have beyond : octet ∉ String.utf8EncodeChar other := by
      intro member
      have large := le_of_mem_utf8EncodeChar several member
      omega
    rw [List.count_eq_zero_of_not_mem apart, List.count_eq_zero_of_not_mem beyond]

/-- An ASCII character occurs as often as its octet. -/
theorem count_encode (ascii : IsAscii octet character) (text : String) :
    (encode text).count octet = text.toList.count character := by
  rw [encode]
  induction text.toList with
  | nil => rfl
  | cons first rest ih =>
      rw [List.flatMap_cons, List.count_append, ascii.count_utf8EncodeChar, ih]
      exact List.count_append.symm

theorem mem_encode_iff (ascii : IsAscii octet character) {text : String} :
    octet ∈ encode text ↔ character ∈ text.toList := by
  rw [← List.count_pos_iff, ascii.count_encode, List.count_pos_iff]

end IsAscii

end DebugSymbols.Text
