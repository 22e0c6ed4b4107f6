import DebugSymbols.Text.Align
/-!
# Numerals in four radices

A numeral is a nonempty run of digits.  `Radix.write` gives the one numeral of
a number without leading zeros, in upper case; `Radix.read?` gives the value of
any numeral, letters in either case.  The main statement is that reading a
written numeral gives the number back.
-/

namespace DebugSymbols

inductive Radix where
  | binary
  | octal
  | decimal
  | hexadecimal
  deriving DecidableEq, Repr

namespace Radix

def base : Radix → Nat
  | .binary => 2
  | .octal => 8
  | .decimal => 10
  | .hexadecimal => 16

theorem two_le_base (radix : Radix) : 2 ≤ radix.base := by
  cases radix <;> decide

theorem base_le_sixteen (radix : Radix) : radix.base ≤ 16 := by
  cases radix <;> decide

end Radix

/-- The value of a character as a digit below sixteen. -/
def digitValue? (character : Char) : Option Nat :=
  if '0' ≤ character ∧ character ≤ '9' then some (character.toNat - '0'.toNat)
  else if 'A' ≤ character ∧ character ≤ 'F' then some (character.toNat - 'A'.toNat + 10)
  else if 'a' ≤ character ∧ character ≤ 'f' then some (character.toNat - 'a'.toNat + 10)
  else none

def digitChar (value : Nat) : Char :=
  if value < 10 then Char.ofNat ('0'.toNat + value) else Char.ofNat ('A'.toNat + (value - 10))

theorem digitValue?_digitChar : ∀ value < 16, digitValue? (digitChar value) = some value := by
  decide

namespace Radix

def digit? (radix : Radix) (character : Char) : Option Nat :=
  (digitValue? character).filter (· < radix.base)

theorem digit?_digitChar (radix : Radix) {value : Nat} (small : value < radix.base) :
    radix.digit? (digitChar value) = some value := by
  have below := Nat.lt_of_lt_of_le small radix.base_le_sixteen
  simp [digit?, digitValue?_digitChar value below, small]

/-- The value of a run of digits that continues a number already read. -/
def extend? (radix : Radix) : Nat → List Char → Option Nat
  | value, [] => some value
  | value, character :: rest =>
      match radix.digit? character with
      | none => none
      | some digit => radix.extend? (value * radix.base + digit) rest

theorem extend?_append (radix : Radix) (value : Nat) (first second : List Char) :
    radix.extend? value (first ++ second) =
      (radix.extend? value first).bind fun middle => radix.extend? middle second := by
  induction first generalizing value with
  | nil => rfl
  | cons character rest ih =>
      simp only [List.cons_append, extend?]
      cases radix.digit? character with
      | none => rfl
      | some digit => exact ih _

def read? (radix : Radix) : List Char → Option Nat
  | [] => none
  | digits => radix.extend? 0 digits

/-- The numeral of a number: most significant digit first, no leading zeros. -/
def write (radix : Radix) (value : Nat) : List Char :=
  if value < radix.base then [digitChar value]
  else radix.write (value / radix.base) ++ [digitChar (value % radix.base)]
termination_by value
decreasing_by
  have two := radix.two_le_base
  exact Nat.div_lt_self (by omega) (by omega)

theorem write_ne_nil (radix : Radix) (value : Nat) : radix.write value ≠ [] := by
  rw [write]
  split <;> simp

theorem extend?_write (radix : Radix) (value : Nat) :
    radix.extend? 0 (radix.write value) = some value := by
  induction value using Nat.strongRecOn with
  | ind value ih =>
      have two := radix.two_le_base
      rw [write]
      split
      · next small => simp [extend?, radix.digit?_digitChar small]
      · next large =>
          have smaller : value / radix.base < value := Nat.div_lt_self (by omega) (by omega)
          have digit : value % radix.base < radix.base := Nat.mod_lt _ (by omega)
          rw [extend?_append, ih _ smaller]
          simp [extend?, radix.digit?_digitChar digit, Nat.div_add_mod']

theorem read?_write (radix : Radix) (value : Nat) :
    radix.read? (radix.write value) = some value := by
  have nonempty := radix.write_ne_nil value
  cases written : radix.write value with
  | nil => exact absurd written nonempty
  | cons digit rest =>
      rw [read?, ← written]
      exact radix.extend?_write value
      exact fun empty => by cases empty

/-- The value of a numeral behind at most one sign. -/
def readSigned? (radix : Radix) : List Char → Option Int
  | '+' :: digits => (radix.read? digits).map Int.ofNat
  | '-' :: digits => (radix.read? digits).map fun value => -Int.ofNat value
  | digits => (radix.read? digits).map Int.ofNat

/-- The value of a numeral behind at most one plus sign. -/
def readUnsigned? (radix : Radix) : List Char → Option Nat
  | '+' :: digits => radix.read? digits
  | digits => radix.read? digits

end Radix

def decimal (value : Nat) : String :=
  String.ofList (Radix.decimal.write value)

/-- A number in upper-case hexadecimal with at least `width` digits. -/
def upperHex (width value : Nat) : String :=
  String.ofList (Text.padLeft width '0' (Radix.hexadecimal.write value))

def lowWord (word : Int64) : UInt32 :=
  word.toUInt64.toUInt32

end DebugSymbols
