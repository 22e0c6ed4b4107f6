import DebugSymbols.Numeral
import Mathlib.Data.Nat.Digits.Defs
/-!
# What numerals are read as

Reading accepts every nonempty run of digits, letters in either case, and gives
the number for which the digits stand by their positions.  One sign may come
before a signed numeral, and a plus sign before an unsigned one.
-/

namespace DebugSymbols

/-! ## Digits -/

theorem digitValue?_eq_some_iff {character : Char} {value : Nat} :
    digitValue? character = some value ↔
      "0123456789ABCDEF".toList[value]? = some character ∨
        "0123456789abcdef".toList[value]? = some character := by
  constructor
  · intro read
    have ascii : character.toNat < 128 := by
      unfold digitValue? at read
      split_ifs at read with bounds bounds bounds
      all_goals exact Nat.lt_of_le_of_lt (UInt32.le_iff_toNat_le.1 bounds.2) (by decide)
    have listed : ∀ code < 128, ∀ digit ∈ digitValue? (Char.ofNat code),
        "0123456789ABCDEF".toList[digit]? = some (Char.ofNat code) ∨
          "0123456789abcdef".toList[digit]? = some (Char.ofNat code) := by
      decide +kernel
    have found := listed character.toNat ascii value
    rw [Char.ofNat_toNat] at found
    exact found read
  · intro listed
    have small : value < 16 := by
      rcases listed with upper | lower
      · exact (List.getElem?_eq_some_iff.1 upper).1
      · exact (List.getElem?_eq_some_iff.1 lower).1
    have read : ∀ digit < 16,
        "0123456789ABCDEF".toList[digit]?.bind digitValue? = some digit ∧
          "0123456789abcdef".toList[digit]?.bind digitValue? = some digit := by
      decide
    obtain ⟨readUpper, readLower⟩ := read value small
    rcases listed with upper | lower
    · rw [upper] at readUpper
      exact readUpper
    · rw [lower] at readLower
      exact readLower

namespace Radix

variable {radix : Radix} {text : List Char}

/-- The character is written for a digit of the radix, in upper or in lower case. -/
def IsDigit (radix : Radix) (character : Char) (digit : Nat) : Prop :=
  digit < radix.base ∧
    ("0123456789ABCDEF".toList[digit]? = some character ∨
      "0123456789abcdef".toList[digit]? = some character)

theorem digit?_eq_some_iff {character : Char} {digit : Nat} :
    radix.digit? character = some digit ↔ radix.IsDigit character digit := by
  rw [digit?, Option.filter_eq_some_iff, digitValue?_eq_some_iff, IsDigit, decide_eq_true_iff]
  exact and_comm

/-! ## Numerals -/

/-- The text is a nonempty run of digits that stand for the number by their positions. -/
def IsNumeral (radix : Radix) (text : List Char) (value : Nat) : Prop :=
  text ≠ [] ∧
    ∃ digits, List.Forall₂ radix.IsDigit text digits ∧
      Nat.ofDigits radix.base digits.reverse = value

/-- A numeral has nothing but digits. -/
theorem IsNumeral.exists_isDigit {value : Nat} (numeral : radix.IsNumeral text value)
    {character : Char} (member : character ∈ text) : ∃ digit, radix.IsDigit character digit := by
  obtain ⟨_, digits, read, _⟩ := numeral
  clear * - read member
  induction read with
  | nil => cases member
  | cons here later ih =>
      rcases List.mem_cons.1 member with rfl | behind
      · exact ⟨_, here⟩
      · exact ih behind

/-- Digits behind a number raise it by their count and add what they stand for. -/
theorem extend?_eq_some_iff {value result : Nat} :
    radix.extend? value text = some result ↔
      ∃ digits, List.Forall₂ radix.IsDigit text digits ∧
        value * radix.base ^ digits.length + Nat.ofDigits radix.base digits.reverse = result := by
  induction text generalizing value with
  | nil =>
      rw [extend?]
      constructor
      · intro same
        cases same
        exact ⟨[], .nil, by simp⟩
      · rintro ⟨digits, none_left, same⟩
        cases none_left
        simpa using same
  | cons character rest ih =>
      have position (digit : Nat) (others : List Nat) :
          value * radix.base ^ (digit :: others).length +
              Nat.ofDigits radix.base (digit :: others).reverse =
            (value * radix.base + digit) * radix.base ^ others.length +
              Nat.ofDigits radix.base others.reverse := by
        rw [List.reverse_cons, Nat.ofDigits_append, Nat.ofDigits_singleton, List.length_reverse,
          List.length_cons]
        ring
      rw [extend?]
      cases found : radix.digit? character with
      | none =>
          constructor
          · intro impossible
            cases impossible
          · rintro ⟨digits, read, same⟩
            cases read with
            | cons here later =>
                rw [digit?_eq_some_iff.2 here] at found
                cases found
      | some digit =>
          simp only [ih]
          constructor
          · rintro ⟨others, read, same⟩
            exact ⟨digit :: others, .cons (digit?_eq_some_iff.1 found) read,
              (position digit others).trans same⟩
          · rintro ⟨digits, read, same⟩
            cases read with
            | cons here later =>
                rw [digit?_eq_some_iff.2 here] at found
                cases found
                exact ⟨_, later, (position _ _).symm.trans same⟩

/-- Reading accepts numerals and gives the numbers for which they stand. -/
theorem read?_eq_some_iff {value : Nat} :
    radix.read? text = some value ↔ radix.IsNumeral text value := by
  cases text with
  | nil =>
      constructor
      · intro impossible
        cases impossible
      · intro numeral
        exact absurd rfl numeral.1
  | cons character rest =>
      rw [read?, extend?_eq_some_iff]
      · simp [IsNumeral]
      · exact List.cons_ne_nil character rest

theorem isNumeral_write (radix : Radix) (value : Nat) : radix.IsNumeral (radix.write value) value :=
  read?_eq_some_iff.1 (radix.read?_write value)

/-! ## Signs -/

inductive IsSigned (radix : Radix) : List Char → Int → Prop where
  | bare {digits : List Char} {value : Nat} (numeral : radix.IsNumeral digits value) :
      IsSigned radix digits value
  | plus {digits : List Char} {value : Nat} (numeral : radix.IsNumeral digits value) :
      IsSigned radix ('+' :: digits) value
  | minus {digits : List Char} {value : Nat} (numeral : radix.IsNumeral digits value) :
      IsSigned radix ('-' :: digits) (-value)

/-- A numeral begins with a digit. -/
theorem IsNumeral.ne_cons {value : Nat} (numeral : radix.IsNumeral text value) {character : Char}
    (other : digitValue? character = none) (rest : List Char) : text ≠ character :: rest := by
  rintro rfl
  obtain ⟨_, digits, read, _⟩ := numeral
  cases read with
  | cons here later =>
      rw [digitValue?_eq_some_iff.2 here.2] at other
      cases other

theorem readSigned?_of_ne (plus : ∀ digits, text ≠ '+' :: digits)
    (minus : ∀ digits, text ≠ '-' :: digits) :
    radix.readSigned? text = (radix.read? text).map Int.ofNat := by
  unfold readSigned?
  split
  case h_1 digits => exact absurd rfl (plus digits)
  case h_2 digits => exact absurd rfl (minus digits)
  case h_3 => rfl

theorem readSigned?_eq_some_iff {number : Int} :
    radix.readSigned? text = some number ↔ radix.IsSigned text number := by
  constructor
  · intro read
    unfold readSigned? at read
    split at read
    all_goals
      obtain ⟨value, found, same⟩ := Option.map_eq_some_iff.1 read
      cases same
    · exact .plus (read?_eq_some_iff.1 found)
    · exact .minus (read?_eq_some_iff.1 found)
    · exact .bare (read?_eq_some_iff.1 found)
  · intro signed
    cases signed with
    | bare numeral =>
        rw [readSigned?_of_ne (numeral.ne_cons (by decide)) (numeral.ne_cons (by decide)),
          read?_eq_some_iff.2 numeral]
        rfl
    | plus numeral =>
        rw [readSigned?, read?_eq_some_iff.2 numeral]
        rfl
    | minus numeral =>
        rw [readSigned?, read?_eq_some_iff.2 numeral]
        rfl

inductive IsUnsigned (radix : Radix) : List Char → Nat → Prop where
  | bare {digits : List Char} {value : Nat} (numeral : radix.IsNumeral digits value) :
      IsUnsigned radix digits value
  | plus {digits : List Char} {value : Nat} (numeral : radix.IsNumeral digits value) :
      IsUnsigned radix ('+' :: digits) value

theorem readUnsigned?_of_ne (plus : ∀ digits, text ≠ '+' :: digits) :
    radix.readUnsigned? text = radix.read? text := by
  unfold readUnsigned?
  split
  case h_1 digits => exact absurd rfl (plus digits)
  case h_2 => rfl

theorem readUnsigned?_eq_some_iff {value : Nat} :
    radix.readUnsigned? text = some value ↔ radix.IsUnsigned text value := by
  constructor
  · intro read
    unfold readUnsigned? at read
    split at read
    · exact .plus (read?_eq_some_iff.1 read)
    · exact .bare (read?_eq_some_iff.1 read)
  · intro unsigned
    cases unsigned with
    | bare numeral =>
        rw [readUnsigned?_of_ne (numeral.ne_cons (by decide)), read?_eq_some_iff.2 numeral]
    | plus numeral => rw [readUnsigned?, read?_eq_some_iff.2 numeral]

end Radix

end DebugSymbols
