import DebugSymbols.Proofs.Numeral.Reading
import DebugSymbols.Proofs.Text.Cut
import DebugSymbols.Trace.Number
/-!
# What numbers are read as

A number of a trace is given by its grammar and by the position of its digits,
and it has to fit in 64 bits.  Reading it step by step, as octets and with
arithmetic that gives up as soon as a word overflows, comes to the same.
-/

namespace DebugSymbols

def Radix.mark : Radix → List Char
  | .binary => ['0', 'b']
  | .octal => ['0', 'o']
  | .decimal => []
  | .hexadecimal => ['0', 'x']

namespace Trace

/-! ## Words -/

def Fits (number : Int) : Prop :=
  -2 ^ 63 ≤ number ∧ number ≤ 2 ^ 63 - 1

theorem word64?_of_fits {number : Int} (fits : Fits number) :
    word64? number = some (Int64.ofInt number) := by
  have least : Int64.minValue.toInt = -2 ^ 63 := Int64.toInt_minValue
  have greatest : Int64.maxValue.toInt = 2 ^ 63 - 1 := by decide
  rw [word64?, least, greatest]
  exact if_pos fits

theorem word64?_of_not_fits {number : Int} (outside : ¬Fits number) : word64? number = none := by
  have least : Int64.minValue.toInt = -2 ^ 63 := Int64.toInt_minValue
  have greatest : Int64.maxValue.toInt = 2 ^ 63 - 1 := by decide
  rw [word64?, least, greatest]
  exact if_neg outside

theorem fits_toInt (value : Int64) : Fits value.toInt :=
  ⟨value.le_toInt, Int.le_sub_one_of_lt value.toInt_lt⟩

theorem word64?_eq_some_iff {number : Int} {value : Int64} :
    word64? number = some value ↔ value.toInt = number := by
  constructor
  · intro found
    by_cases fits : Fits number
    · rw [word64?_of_fits fits] at found
      cases found
      exact Int64.toInt_ofInt_of_le fits.1 (Int.lt_of_le_sub_one fits.2)
    · rw [word64?_of_not_fits fits] at found
      cases found
  · rintro rfl
    rw [word64?_of_fits (fits_toInt value), Int64.ofInt_toInt]

/-- A word is negated as a number unless it is the least. -/
theorem toInt_neg_of_ne {value : Int64} (other : value.toInt ≠ -2 ^ 63) :
    (-value).toInt = -value.toInt := by
  obtain ⟨low, high⟩ := fits_toInt value
  rw [Int64.toInt_neg, Int.bmod_eq_of_le]
  · omega
  · omega

/-! ## Arithmetic within words -/

def withSign (negative : Bool) (value : Nat) : Int :=
  if negative then -value else value

/-- What is nearer to zero fits too. -/
theorem Fits.of_le {negative : Bool} {value larger : Nat} (fits : Fits (withSign negative larger))
    (le : value ≤ larger) : Fits (withSign negative value) := by
  obtain ⟨low, high⟩ := fits
  cases negative with
  | false =>
      have bound : (larger : Int) ≤ 2 ^ 63 - 1 := high
      constructor
      · change -2 ^ 63 ≤ (value : Int)
        omega
      · change (value : Int) ≤ 2 ^ 63 - 1
        omega
  | true =>
      have bound : -2 ^ 63 ≤ -(larger : Int) := low
      constructor
      · change -2 ^ 63 ≤ -(value : Int)
        omega
      · change -(value : Int) ≤ 2 ^ 63 - 1
        omega

/-- The word with one more digit at its end, unless a step on the way leaves the words. -/
def pushDigit? (radix : Radix) (negative : Bool) (value : Int64) (digit : Nat) : Option Int64 :=
  (word64? (value.toInt * radix.base)).bind fun raised =>
    word64? (if negative then raised.toInt - digit else raised.toInt + digit)

/-- The word that digits make of one already read, as long as every step stays in the words. -/
def pushDigits? (radix : Radix) (negative : Bool) : Int64 → List Char → Option Int64
  | value, [] => some value
  | value, character :: rest =>
      (radix.digit? character).bind fun digit =>
        (pushDigit? radix negative value digit).bind fun longer =>
          pushDigits? radix negative longer rest

def digitsWord? (radix : Radix) (negative : Bool) : List Char → Option Int64
  | [] => none
  | digits => pushDigits? radix negative 0 digits

def signedWord? (radix : Radix) : List Char → Option Int64
  | '+' :: digits => digitsWord? radix false digits
  | '-' :: digits => digitsWord? radix true digits
  | digits => digitsWord? radix false digits

variable {radix : Radix} {negative : Bool}

theorem pushDigit?_eq {value : Int64} {read : Nat} (same : value.toInt = withSign negative read)
    (digit : Nat) :
    pushDigit? radix negative value digit =
      word64? (withSign negative (read * radix.base + digit)) := by
  have raised : value.toInt * radix.base = withSign negative (read * radix.base) := by
    rw [same]
    cases negative with
    | false => exact (Int.natCast_mul read radix.base).symm
    | true => exact (Int.neg_mul _ _).trans (congrArg (- ·) (Int.natCast_mul read radix.base).symm)
  rw [pushDigit?, raised]
  by_cases fits : Fits (withSign negative (read * radix.base))
  · have back := word64?_eq_some_iff.1 (word64?_of_fits fits)
    rw [word64?_of_fits fits, Option.bind_some, back]
    congr 1
    cases negative with
    | false => exact (Int.natCast_add _ digit).symm
    | true =>
        simp only [withSign, if_true]
        omega
  · have outside : ¬Fits (withSign negative (read * radix.base + digit)) :=
      fun larger => fits (larger.of_le (Nat.le_add_right _ digit))
    rw [word64?_of_not_fits fits, word64?_of_not_fits outside]
    rfl

theorem le_of_extend? {value result : Nat} {digits : List Char}
    (read : radix.extend? value digits = some result) : value ≤ result := by
  obtain ⟨values, _, rfl⟩ := Radix.extend?_eq_some_iff.1 read
  have positive : 0 < radix.base ^ values.length :=
    Nat.pow_pos (Nat.lt_of_lt_of_le Nat.zero_lt_two radix.two_le_base)
  exact Nat.le_trans (Nat.le_mul_of_pos_right value positive) (Nat.le_add_right _ _)

/-- A word that is left on the way is never reached again: the digits make the word that they make
without bounds, if it is one. -/
theorem pushDigits?_eq {value : Int64} {read : Nat} (same : value.toInt = withSign negative read)
    (digits : List Char) :
    pushDigits? radix negative value digits =
      (radix.extend? read digits).bind fun result => word64? (withSign negative result) := by
  induction digits generalizing value read with
  | nil => exact (word64?_eq_some_iff.2 same).symm
  | cons character rest ih =>
      rw [pushDigits?, Radix.extend?]
      cases radix.digit? character with
      | none => rfl
      | some digit =>
          rw [Option.bind_some, pushDigit?_eq same]
          by_cases fits : Fits (withSign negative (read * radix.base + digit))
          · have further := word64?_of_fits fits
            rw [further]
            exact ih (word64?_eq_some_iff.1 further)
          · rw [word64?_of_not_fits fits]
            cases later : radix.extend? (read * radix.base + digit) rest with
            | none =>
                simp only [later]
                rfl
            | some result =>
                have outside : ¬Fits (withSign negative result) :=
                  fun larger => fits (larger.of_le (le_of_extend? later))
                simp only [later, Option.bind_some, word64?_of_not_fits outside]
                rfl

theorem digitsWord?_eq (digits : List Char) :
    digitsWord? radix negative digits =
      (radix.read? digits).bind fun value => word64? (withSign negative value) := by
  cases digits with
  | nil => rfl
  | cons character rest =>
      have start : (0 : Int64).toInt = withSign negative 0 := by
        cases negative with
        | false => rfl
        | true => rfl
      exact pushDigits?_eq start (character :: rest)

/-- Arithmetic within words refuses just the numerals whose numbers do not fit. -/
theorem signedWord?_eq (text : List Char) :
    signedWord? radix text = (radix.readSigned? text).bind word64? := by
  unfold signedWord?
  split
  case h_1 digits =>
    rw [digitsWord?_eq, Radix.readSigned?, Option.bind_map]
    rfl
  case h_2 digits =>
    rw [digitsWord?_eq, Radix.readSigned?, Option.bind_map]
    rfl
  case h_3 plus minus =>
    rw [digitsWord?_eq, Radix.readSigned?_of_ne plus minus, Option.bind_map]
    rfl

/-! ## Marks -/

/-- The text begins with the mark of the radix, or with none at all if the radix is ten, and the
body stands behind. -/
def IsMarked (text : List Char) (radix : Radix) (body : List Char) : Prop :=
  text = radix.mark ++ body ∧
    (radix = .decimal → ∀ other : Radix, other ≠ .decimal → ¬other.mark <+: text)

theorem radixMark_eq_iff {text body : List Char} :
    radixMark text = (radix, body) ↔ IsMarked text radix body := by
  constructor
  · intro found
    unfold radixMark at found
    split at found
    case h_1 | h_2 | h_3 =>
      cases found
      exact ⟨rfl, nofun⟩
    case h_4 binary octal hexadecimal =>
      cases found
      refine ⟨rfl, fun _ other marked => ?_⟩
      rintro ⟨rest, same⟩
      cases other with
      | binary => exact binary rest same.symm
      | octal => exact octal rest same.symm
      | decimal => exact marked rfl
      | hexadecimal => exact hexadecimal rest same.symm
  · rintro ⟨rfl, unmarked⟩
    cases radix with
    | binary | octal | hexadecimal => rfl
    | decimal =>
        have free (other : Radix) (marked : other ≠ .decimal) := unmarked rfl other marked
        unfold radixMark
        split
        case h_1 rest same => exact absurd ⟨rest, same.symm⟩ (free .binary nofun)
        case h_2 rest same => exact absurd ⟨rest, same.symm⟩ (free .octal nofun)
        case h_3 rest same => exact absurd ⟨rest, same.symm⟩ (free .hexadecimal nofun)
        case h_4 => rfl

/-- The radix that the first two octets of a text announce and the text behind them, which is absent
if it cannot be cut off there. -/
def octetMark (text : String) : Radix × Option String :=
  match Text.textTo? text 2 with
  | some "0b" => (.binary, Text.textFrom? text 2)
  | some "0o" => (.octal, Text.textFrom? text 2)
  | some "0x" => (.hexadecimal, Text.textFrom? text 2)
  | _ => (.decimal, some text)

/-- A mark in the first octets is a mark in the first characters, and it can be cut off. -/
theorem octets_of_marked {text : String} {mark body : List Char} (same : text.toList = mark ++ body)
    (two : (Text.encode (String.ofList mark)).length = 2) :
    Text.textTo? text 2 = some (String.ofList mark) ∧
      Text.textFrom? text 2 = some (String.ofList body) := by
  have whole : text = String.ofList mark ++ String.ofList body := by
    rw [← String.ofList_append, ← same, String.ofList_toList]
  constructor
  · exact Text.textTo?_eq_some_iff.2 ⟨_, whole, two⟩
  · rw [whole, ← two, Text.textFrom?_append]

theorem isPrefix_of_octets {text mark : String} (front : Text.textTo? text 2 = some mark) :
    mark.toList <+: text.toList := by
  obtain ⟨rest, whole, _⟩ := Text.textTo?_eq_some_iff.1 front
  rw [whole, String.toList_append]
  exact List.prefix_append _ _

/-- Looking for a mark among the octets never cuts a character in two. -/
theorem octetMark_eq (text : String) :
    octetMark text =
      ((radixMark text.toList).1, some (String.ofList (radixMark text.toList).2)) := by
  obtain ⟨⟨radix, body⟩, found⟩ : ∃ parts, radixMark text.toList = parts := ⟨_, rfl⟩
  obtain ⟨same, unmarked⟩ := radixMark_eq_iff.1 found
  rw [found, octetMark]
  cases radix with
  | binary =>
      obtain ⟨front, behind⟩ := octets_of_marked same (by decide)
      rw [front, behind]
      rfl
  | octal =>
      obtain ⟨front, behind⟩ := octets_of_marked same (by decide)
      rw [front, behind]
      rfl
  | hexadecimal =>
      obtain ⟨front, behind⟩ := octets_of_marked same (by decide)
      rw [front, behind]
      rfl
  | decimal =>
      have free (other : Radix) (marked : other ≠ .decimal) := unmarked rfl other marked
      split
      case h_1 front => exact absurd (isPrefix_of_octets front) (free .binary nofun)
      case h_2 front => exact absurd (isPrefix_of_octets front) (free .octal nofun)
      case h_3 front => exact absurd (isPrefix_of_octets front) (free .hexadecimal nofun)
      case h_4 =>
        have whole : text.toList = body := same
        rw [← whole, String.ofList_toList]

/-! ## Numbers -/

/-- The text is a number of the grammar: a minus sign that negates what follows, a mark, and a
numeral of the radix behind at most one more sign.  The number is that of the numeral and its
sign. -/
inductive IsNumber : List Char → Bool → Int → Prop where
  | plain {text body : List Char} {radix : Radix} {number : Int} (free : ∀ rest, text ≠ '-' :: rest)
      (marked : IsMarked text radix body) (signed : radix.IsSigned body number) :
      IsNumber text false number
  | negated {text body : List Char} {radix : Radix} {number : Int}
      (marked : IsMarked text radix body) (signed : radix.IsSigned body number) :
      IsNumber ('-' :: text) true number

theorem marked?_eq {text body : List Char} {number : Int} (marked : IsMarked text radix body)
    (signed : radix.IsSigned body number) : marked? text = word64? number := by
  rw [marked?, radixMark_eq_iff.2 marked]
  exact congrArg (Option.bind · word64?) (Radix.readSigned?_eq_some_iff.2 signed)

theorem exists_isSigned_of_marked? {text : List Char} {value : Int64}
    (read : marked? text = some value) :
    ∃ radix body, IsMarked text radix body ∧ radix.IsSigned body value.toInt := by
  obtain ⟨⟨radix, body⟩, found⟩ : ∃ parts, radixMark text = parts := ⟨_, rfl⟩
  rw [marked?, found] at read
  obtain ⟨number, signed, fitting⟩ := Option.bind_eq_some_iff.1 read
  rw [word64?_eq_some_iff.1 fitting]
  exact ⟨radix, body, radixMark_eq_iff.1 found, Radix.readSigned?_eq_some_iff.1 signed⟩

theorem number?_of_ne {text : List Char} (free : ∀ rest, text ≠ '-' :: rest) :
    number? text = marked? text := by
  unfold number?
  split
  case h_1 rest => exact absurd rfl (free rest)
  case h_2 => rfl

/-- A number is read as the word of its numeral, negated if a minus sign stands in front. -/
theorem number?_eq {text : List Char} {negated : Bool} {number : Int}
    (told : IsNumber text negated number) :
    number? text =
      (word64? number).map fun value => if negated then -value else value := by
  cases told with
  | plain free marked signed =>
      rw [number?_of_ne free, marked?_eq marked signed]
      exact Option.map_id'.symm
  | negated marked signed =>
      rw [number?, marked?_eq marked signed]
      rfl

theorem exists_isNumber_of_number? {text : List Char} {value : Int64}
    (read : number? text = some value) :
    ∃ negated number, IsNumber text negated number ∧ Fits number := by
  unfold number? at read
  split at read
  case h_1 rest =>
    obtain ⟨inner, found, _⟩ := Option.map_eq_some_iff.1 read
    obtain ⟨radix, body, marked, signed⟩ := exists_isSigned_of_marked? found
    exact ⟨true, inner.toInt, .negated marked signed, fits_toInt inner⟩
  case h_2 free =>
    obtain ⟨radix, body, marked, signed⟩ := exists_isSigned_of_marked? read
    exact ⟨false, value.toInt, .plain free marked signed, fits_toInt value⟩

/-- A number without the minus sign in front, looked at octet by octet and computed within words.
It is refused if nothing is inside, and the reading breaks down if there is no answer. -/
def stepwiseMarked? (text : String) : Option (Option Int64) :=
  let (radix, body) := octetMark text
  body.map fun digits => signedWord? radix digits.toList

def stepwise? (text : String) : Option (Option Int64) :=
  match text.toList with
  | '-' :: rest =>
      (stepwiseMarked? (String.ofList rest)).map (Option.map fun value => -value)
  | _ => stepwiseMarked? text

theorem stepwiseMarked?_eq (text : String) :
    stepwiseMarked? text = some (marked? text.toList) := by
  rw [stepwiseMarked?, octetMark_eq]
  simp only [Option.map_some, String.toList_ofList, signedWord?_eq]
  rfl

theorem stepwise?_eq (text : String) : stepwise? text = some (number? text.toList) := by
  unfold stepwise?
  split
  case h_1 rest same =>
    rw [stepwiseMarked?_eq, String.toList_ofList, same]
    rfl
  case h_2 free => rw [stepwiseMarked?_eq, number?_of_ne free]

/-- A number is accepted just if it has the grammar and its numeral fits in a word, and then the
answer is the number.  No text breaks the reading. -/
theorem number?_follows_grammar (text : String) :
    stepwise? text = some (number? text.toList) ∧
      ((∃ value, number? text.toList = some value) ↔
        ∃ negated number, IsNumber text.toList negated number ∧ Fits number) ∧
      ∀ negated number, IsNumber text.toList negated number → Fits number →
        (negated = true → number ≠ -2 ^ 63) →
          ∃ value, number? text.toList = some value ∧
            value.toInt = if negated then -number else number := by
  refine ⟨stepwise?_eq text, ⟨?_, ?_⟩, ?_⟩
  · rintro ⟨value, read⟩
    exact exists_isNumber_of_number? read
  · rintro ⟨negated, number, told, fits⟩
    rw [number?_eq told, word64?_of_fits fits]
    exact ⟨_, rfl⟩
  · intro negated number told fits other
    have fitting := word64?_of_fits fits
    have same := word64?_eq_some_iff.1 fitting
    rw [number?_eq told, fitting]
    refine ⟨_, rfl, ?_⟩
    cases negated with
    | false => exact same
    | true =>
        have least : (Int64.ofInt number).toInt ≠ -2 ^ 63 := by
          rw [same]
          exact other rfl
        exact (toInt_neg_of_ne least).trans (congrArg (- ·) same)

/-- A line number is a decimal numeral behind at most one plus sign, and has to fit in 64 bits. -/
theorem lineNumber?_eq_some_iff {text : List Char} {number : Nat} :
    lineNumber? text = some number ↔
      Radix.decimal.IsUnsigned text number ∧ number < 2 ^ 64 := by
  rw [lineNumber?, Option.filter_eq_some_iff, Radix.readUnsigned?_eq_some_iff,
    decide_eq_true_iff]
  exact Iff.rfl

/-! ## Writing numbers -/

/-- A word in the ordinary way: a minus sign if it is negative, the mark of the radix, and digits of
its absolute value. -/
def spelling (radix : Radix) (value : Int64) (digits : List Char) : List Char :=
  if value.toInt < 0 then '-' :: (radix.mark ++ digits) else radix.mark ++ digits

theorem isMarked_of_isNumeral {digits : List Char} {value : Nat}
    (numeral : radix.IsNumeral digits value) : IsMarked (radix.mark ++ digits) radix digits := by
  refine ⟨rfl, ?_⟩
  rintro rfl other marked ⟨rest, same⟩
  -- The letter of a mark is no decimal digit.
  have letter : ∃ character ∈ other.mark, Radix.decimal.digit? character = none := by
    cases other with
    | binary => exact ⟨'b', by decide, by decide⟩
    | octal => exact ⟨'o', by decide, by decide⟩
    | decimal => exact absurd rfl marked
    | hexadecimal => exact ⟨'x', by decide, by decide⟩
  obtain ⟨character, inside, foreign⟩ := letter
  have whole : other.mark ++ rest = digits := same
  obtain ⟨digit, here⟩ := numeral.exists_isDigit (whole ▸ List.mem_append_left rest inside)
  rw [Radix.digit?_eq_some_iff.2 here] at foreign
  cases foreign

theorem marked?_mark_append {digits : List Char} {value : Nat}
    (numeral : radix.IsNumeral digits value) :
    marked? (radix.mark ++ digits) = word64? value :=
  marked?_eq (isMarked_of_isNumeral numeral) (.bare numeral)

theorem mark_append_ne {digits : List Char} {value : Nat} (numeral : radix.IsNumeral digits value)
    (rest : List Char) : radix.mark ++ digits ≠ '-' :: rest := by
  cases radix with
  | binary | octal | hexadecimal => nofun
  | decimal => exact numeral.ne_cons (by decide) rest

/-- Every word but the least is read back in the ordinary way of writing, in whatever radix.  The
least one is refused, for its absolute value is no word. -/
theorem number?_spelling (radix : Radix) (value : Int64) :
    radix.IsNumeral (radix.write value.toInt.natAbs) value.toInt.natAbs ∧
      ∀ digits, radix.IsNumeral digits value.toInt.natAbs →
        number? (spelling radix value digits) =
          if value = Int64.minValue then none else some value := by
  refine ⟨radix.isNumeral_write _, fun digits numeral => ?_⟩
  obtain ⟨low, high⟩ := fits_toInt value
  have least : value = Int64.minValue ↔ value.toInt = -2 ^ 63 := by
    rw [← Int64.toInt_inj, Int64.toInt_minValue]
  rw [spelling]
  split
  case isTrue negative =>
    have size : (value.toInt.natAbs : Int) = -value.toInt := by omega
    rw [number?, marked?_mark_append numeral, size]
    split
    case isTrue same =>
      have outside : ¬Fits (-value.toInt) := by
        rw [least.1 same]
        exact fun fits => absurd fits.2 (by decide)
      rw [word64?_of_not_fits outside]
      rfl
    case isFalse other =>
      have inner : word64? (-value.toInt) = some (-value) :=
        word64?_eq_some_iff.2 (toInt_neg_of_ne fun same => other (least.2 same))
      rw [inner, Option.map_some, Int64.neg_neg]
  case isFalse positive =>
    have size : (value.toInt.natAbs : Int) = value.toInt := by omega
    have other : value ≠ Int64.minValue := fun same => by
      have := least.1 same
      omega
    rw [number?_of_ne (mark_append_ne numeral), marked?_mark_append numeral, size, if_neg other]
    exact word64?_eq_some_iff.2 rfl

/-- In decimal, the least word is refused. -/
theorem least_word_refused :
    spelling .decimal Int64.minValue (Radix.decimal.write Int64.minValue.toInt.natAbs) =
        "-9223372036854775808".toList ∧
      number? "-9223372036854775808".toList = none := by
  decide +kernel

end Trace

end DebugSymbols
