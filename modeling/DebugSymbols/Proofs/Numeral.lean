import DebugSymbols.Numeral
import Mathlib.Algebra.Group.Nat.Defs
import Mathlib.Data.List.DropRight
/-!
# Numerals of a least width

A numeral that is filled up with zeros keeps its value and ends with the digits
of a remainder.  In hexadecimal it has upper-case digits only, as many as were
asked for, and more only if the number needs them.
-/

namespace DebugSymbols

namespace Radix

/-- A number below a power of the base has no more digits than the exponent says. -/
theorem length_write_le (radix : Radix) {value width : Nat} (positive : 0 < width)
    (small : value < radix.base ^ width) : (radix.write value).length ≤ width := by
  obtain ⟨count, rfl⟩ := Nat.exists_eq_add_one.2 positive
  clear positive
  induction count generalizing value with
  | zero =>
      rw [write, if_pos (by simpa using small)]
      simp
  | succ count ih =>
      rw [write]
      split
      · simp
      · have shorter : value / radix.base < radix.base ^ (count + 1) := by
          apply Nat.div_lt_of_lt_mul
          rwa [← Nat.pow_succ']
        have bound := ih shorter
        simp only [List.length_append, List.length_singleton]
        omega

/-- The digits of a numeral stand for values below the base. -/
theorem exists_digitChar_of_mem_write (radix : Radix) {value : Nat} {character : Char}
    (member : character ∈ radix.write value) :
    ∃ digit < radix.base, character = digitChar digit := by
  induction value using Nat.strongRecOn with
  | ind value ih =>
      have two := radix.two_le_base
      rw [write] at member
      split at member
      case isTrue small => exact ⟨value, small, List.mem_singleton.1 member⟩
      case isFalse large =>
        rcases List.mem_append.1 member with earlier | last
        · exact ih _ (Nat.div_lt_self (by omega) (by omega)) earlier
        · exact ⟨value % radix.base, Nat.mod_lt _ (by omega), List.mem_singleton.1 last⟩

/-- A number other than 0 is written without a zero in front. -/
theorem head?_write_ne_zero (radix : Radix) {value : Nat} (positive : 0 < value) :
    (radix.write value).head? ≠ some '0' := by
  induction value using Nat.strongRecOn with
  | ind value ih =>
      have two := radix.two_le_base
      rw [write]
      split
      case isTrue small =>
        have nonzero : ∀ digit < 16, 0 < digit → digitChar digit ≠ '0' := by decide
        simpa using nonzero value (Nat.lt_of_lt_of_le small radix.base_le_sixteen) positive
      case isFalse large =>
        have quotient : 0 < value / radix.base := Nat.div_pos (by omega) (by omega)
        have earlier := ih _ (Nat.div_lt_self (by omega) (by omega)) quotient
        obtain ⟨first, rest, same⟩ :=
          List.exists_cons_of_ne_nil (radix.write_ne_nil (value / radix.base))
        rw [same] at earlier ⊢
        exact earlier

theorem digit?_zero (radix : Radix) : radix.digit? '0' = some 0 :=
  radix.digit?_digitChar (Nat.lt_of_lt_of_le Nat.zero_lt_two radix.two_le_base)

/-- Zeros in front do not change what is read. -/
theorem extend?_replicate_zero (radix : Radix) (count : Nat) (digits : List Char) :
    radix.extend? 0 (List.replicate count '0' ++ digits) = radix.extend? 0 digits := by
  induction count with
  | zero => rfl
  | succ count ih => simpa [List.replicate_succ, extend?, digit?_zero] using ih

theorem read?_of_ne_nil (radix : Radix) {digits : List Char} (nonempty : digits ≠ []) :
    radix.read? digits = radix.extend? 0 digits := by
  cases digits with
  | nil => exact absurd rfl nonempty
  | cons digit rest => rfl

theorem read?_padLeft_write (radix : Radix) (width value : Nat) :
    radix.read? (Text.padLeft width '0' (radix.write value)) = some value := by
  have nonempty : Text.padLeft width '0' (radix.write value) ≠ [] := by
    simp [Text.padLeft, radix.write_ne_nil]
  rw [radix.read?_of_ne_nil nonempty, Text.padLeft, extend?_replicate_zero, extend?_write]

/-! ### Last digits -/

/-- So many last digits of a number, which are zeros where it has no more. -/
def lastDigits (radix : Radix) : Nat → Nat → List Char
  | 0, _ => []
  | width + 1, value =>
      radix.lastDigits width (value / radix.base) ++ [digitChar (value % radix.base)]

theorem lastDigits_zero (radix : Radix) (width : Nat) :
    radix.lastDigits width 0 = List.replicate width '0' := by
  induction width with
  | zero => rfl
  | succ width ih =>
      have zero : digitChar 0 = '0' := by decide
      rw [lastDigits, Nat.zero_div, Nat.zero_mod, ih, zero, ← List.replicate_succ']

/-- Last digits are those of the remainder that has no further ones. -/
theorem lastDigits_mod (radix : Radix) (width value : Nat) :
    radix.lastDigits width (value % radix.base ^ width) = radix.lastDigits width value := by
  induction width generalizing value with
  | zero => rfl
  | succ width ih =>
      have factor : radix.base ∣ radix.base ^ (width + 1) := Nat.dvd_mul_left _ _
      have last : value % radix.base ^ (width + 1) % radix.base = value % radix.base :=
        Nat.mod_mod_of_dvd _ factor
      have others : value % radix.base ^ (width + 1) / radix.base =
          value / radix.base % radix.base ^ width := by
        rw [Nat.pow_succ', Nat.mod_mul_right_div_self]
      rw [lastDigits, lastDigits, last, others, ih]

/-- A numeral that is filled up with zeros ends with the last digits of its number. -/
theorem rtake_padLeft_write (radix : Radix) (width value : Nat) :
    (Text.padLeft width '0' (radix.write value)).rtake width = radix.lastDigits width value := by
  induction width generalizing value with
  | zero => exact List.rtake_zero _
  | succ width ih =>
      rw [lastDigits, write]
      split
      case isTrue small =>
        have filled : Text.padLeft (width + 1) '0' [digitChar value] =
            List.replicate width '0' ++ [digitChar value] := rfl
        rw [filled, List.rtake_concat_succ, Nat.div_eq_of_lt small, Nat.mod_eq_of_lt small,
          lastDigits_zero, List.rtake, List.length_replicate, Nat.sub_self, List.drop_zero]
      case isFalse large =>
        have filled (digits : List Char) (digit : Char) :
            Text.padLeft (width + 1) '0' (digits ++ [digit]) =
              Text.padLeft width '0' digits ++ [digit] := by
          simp [Text.padLeft]
        rw [filled, List.rtake_concat_succ, ih]

theorem lastDigits_of_lt (radix : Radix) {width value : Nat} (positive : 0 < width)
    (small : value < radix.base ^ width) :
    radix.lastDigits width value = Text.padLeft width '0' (radix.write value) := by
  have bound := radix.length_write_le positive small
  have length : (Text.padLeft width '0' (radix.write value)).length = width := by
    rw [Text.length_padLeft]
    omega
  rw [← rtake_padLeft_write, List.rtake, length, Nat.sub_self, List.drop_zero]

end Radix

/-! ## Upper-case hexadecimal -/

theorem toList_upperHex (width value : Nat) :
    (upperHex width value).toList =
      Text.padLeft width '0' (Radix.hexadecimal.write value) :=
  String.toList_ofList

theorem read?_upperHex (width value : Nat) :
    Radix.hexadecimal.read? (upperHex width value).toList = some value := by
  rw [toList_upperHex, Radix.read?_padLeft_write]

theorem length_upperHex (width value : Nat) :
    (upperHex width value).length = max width (Radix.hexadecimal.write value).length := by
  rw [← String.length_toList, toList_upperHex, Text.length_padLeft]

/-- A number that fits is written in exactly the width asked for. -/
theorem length_upperHex_of_lt {width value : Nat} (positive : 0 < width)
    (small : value < 16 ^ width) : (upperHex width value).length = width := by
  have bound := Radix.hexadecimal.length_write_le positive small
  rw [length_upperHex]
  omega

theorem exists_digitChar_of_mem_upperHex {width value : Nat} {character : Char}
    (member : character ∈ (upperHex width value).toList) :
    ∃ digit < 16, character = digitChar digit := by
  rw [toList_upperHex, Text.padLeft] at member
  rcases List.mem_append.1 member with filler | digit
  · exact ⟨0, by decide, List.eq_of_mem_replicate filler⟩
  · exact Radix.hexadecimal.exists_digitChar_of_mem_write digit

/-- A character that is no digit does not occur. -/
theorem not_mem_upperHex {width value : Nat} {character : Char}
    (other : digitValue? character = none) : character ∉ (upperHex width value).toList := by
  intro member
  obtain ⟨digit, small, rfl⟩ := exists_digitChar_of_mem_upperHex member
  rw [digitValue?_digitChar digit small] at other
  cases other

/-- A numeral that is wider than it has to be does not begin with a zero. -/
theorem head?_upperHex_ne_zero {width value : Nat} (positive : 0 < width)
    (wider : width < (upperHex width value).length) :
    (upperHex width value).toList.head? ≠ some '0' := by
  rw [length_upperHex] at wider
  have unfilled : width - (Radix.hexadecimal.write value).length = 0 := by omega
  rw [toList_upperHex, Text.padLeft, unfilled, List.replicate_zero, List.nil_append]
  apply Radix.head?_write_ne_zero
  rcases Nat.eq_zero_or_pos value with rfl | nonzero
  · have single := Radix.hexadecimal.length_write_le Nat.zero_lt_one (by decide : 0 < 16 ^ 1)
    omega
  · exact nonzero

/-- The numeral of a remainder is the end of the numeral of the whole. -/
theorem toList_upperHex_mod {width : Nat} (positive : 0 < width) (value : Nat) :
    (upperHex width (value % 16 ^ width)).toList =
      (Text.padLeft width '0' (upperHex 0 value).toList).rtake width := by
  have below : value % Radix.hexadecimal.base ^ width < Radix.hexadecimal.base ^ width :=
    Nat.mod_lt _ (Nat.pow_pos (by decide))
  have unfilled : (upperHex 0 value).toList = Radix.hexadecimal.write value := by
    rw [toList_upperHex, Text.padLeft, Nat.zero_sub, List.replicate_zero, List.nil_append]
  rw [unfilled, Radix.rtake_padLeft_write, ← Radix.lastDigits_mod,
    Radix.lastDigits_of_lt _ positive below, toList_upperHex]
  rfl

/-- A text that is the upper-case hexadecimal numeral of a number: it has at least so many digits,
and none in front that it could do without. -/
structure IsUpperHex (width value : Nat) (text : String) : Prop where
  digits : ∀ character ∈ text.toList, character ∈ "0123456789ABCDEF".toList
  value : Radix.hexadecimal.read? text.toList = some value
  wide : width ≤ text.length
  needed : width < text.length → text.toList.head? ≠ some '0'

theorem isUpperHex_upperHex {width : Nat} (positive : 0 < width) (value : Nat) :
    IsUpperHex width value (upperHex width value) where
  digits := by
    intro character member
    obtain ⟨digit, small, rfl⟩ := exists_digitChar_of_mem_upperHex member
    have listed : ∀ digit < 16, digitChar digit ∈ "0123456789ABCDEF".toList := by decide
    exact listed digit small
  value := read?_upperHex width value
  wide := by
    rw [length_upperHex]
    exact Nat.le_max_left _ _
  needed := head?_upperHex_ne_zero positive

/-- Without a least width there still is a digit. -/
theorem isUpperHex_upperHex_zero (value : Nat) : IsUpperHex 1 value (upperHex 0 value) := by
  have nonempty : 1 ≤ (Radix.hexadecimal.write value).length :=
    List.length_pos_of_ne_nil (Radix.hexadecimal.write_ne_nil value)
  have same : upperHex 0 value = upperHex 1 value := by
    rw [upperHex, upperHex, Text.padLeft, Text.padLeft, Nat.zero_sub,
      Nat.sub_eq_zero_of_le nonempty]
  rw [same]
  exact isUpperHex_upperHex Nat.zero_lt_one value

end DebugSymbols
