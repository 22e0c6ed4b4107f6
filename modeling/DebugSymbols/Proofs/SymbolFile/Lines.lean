import DebugSymbols.Proofs.Numeral
import DebugSymbols.Proofs.SymbolFile.Writing
/-!
# Lines of a symbol file

Behind the header, the text of a file is a line for each entry, ended by a
newline, and then the terminator.  Addresses are shown in eight digits, the
negative ones as well.  Entries whose text has no newline can be read back from
a file, whatever else their texts hold.
-/

namespace DebugSymbols.SymbolFile

/-! ## Lines -/

namespace Entry

def line (entry : Entry) : List Char :=
  entry.digits.toList ++ ' ' :: entry.text.toList

theorem length_digits (entry : Entry) : entry.digits.toList.length = 8 := by
  have fits : entry.address.toUInt32.toNat < 16 ^ 8 := entry.address.toUInt32.toNat_lt
  rw [String.length_toList]
  exact length_upperHex_of_lt (by decide) fits

theorem newline_not_mem_line {entry : Entry} (clean : '\n' ∉ entry.text.toList) :
    '\n' ∉ entry.line := by
  rw [line, List.mem_append, List.mem_cons]
  rintro (digit | blank | inside)
  · exact not_mem_upperHex (by decide) digit
  · cases blank
  · exact clean inside

end Entry

def body : List Entry → List Char
  | [] => terminator.toList
  | entry :: rest => entry.line ++ '\n' :: body rest

theorem toList_text (entries : List Entry) :
    (text entries).toList = header.toList ++ body entries := by
  have below : (entries.flatMap Entry.pieces ++ [terminator]).flatMap String.toList =
      body entries := by
    induction entries with
    | nil => rfl
    | cons entry rest ih =>
        rw [List.flatMap_cons, List.append_assoc, List.flatMap_append, ih]
        simp [Entry.pieces, Entry.line, body]
  rw [text, String.toList_join, pieces, List.cons_append, List.flatMap_cons, below]

/-! ## Reading -/

/-- The entry on a line: eight digits, a blank and the text. -/
def readLine? (line : List Char) : Option Entry :=
  match Radix.hexadecimal.read? (line.take 8), line.drop 8 with
  | some address, ' ' :: content =>
      some ⟨(UInt32.ofNat address).toInt32, String.ofList content⟩
  | _, _ => none

/-- The entries on lines.  What stands behind the last newline has to be the terminator. -/
def readLines? : List (List Char) → Option (List Entry)
  | [] => none
  | [last] => if last = terminator.toList then some [] else none
  | line :: rest =>
      match readLine? line, readLines? rest with
      | some entry, some entries => some (entry :: entries)
      | _, _ => none

def readText? (content : String) : Option (List Entry) :=
  match content.toList.splitOn '\n' with
  | [] => none
  | first :: rest => if first ++ ['\n'] = header.toList then readLines? rest else none

def read? (octets : List UInt8) : Option (List Entry) :=
  (Text.decode? octets).bind readText?

theorem readLine?_line (entry : Entry) : readLine? entry.line = some entry := by
  have length := entry.length_digits
  have address : Radix.hexadecimal.read? (entry.line.take 8) =
      some entry.address.toUInt32.toNat := by
    rw [Entry.line, List.take_left' length]
    exact read?_upperHex _ _
  have content : entry.line.drop 8 = ' ' :: entry.text.toList := List.drop_left' length
  rw [readLine?, address, content]
  simp

/-- Lines are read back one by one up to the terminator. -/
theorem readLines?_body {entries : List Entry}
    (clean : ∀ entry ∈ entries, '\n' ∉ entry.text.toList) :
    readLines? ((body entries).splitOn '\n') = some entries := by
  induction entries with
  | nil => rfl
  | cons entry rest ih =>
      have here := Entry.newline_not_mem_line (clean entry List.mem_cons_self)
      have others := ih fun other member => clean other (List.mem_cons_of_mem _ member)
      rw [body, List.splitOn_append_cons_self_of_not_mem here]
      cases split : (body rest).splitOn '\n' with
      | nil => exact absurd split (List.splitOn_ne_nil _ _)
      | cons line more =>
          rw [split] at others
          rw [readLines?, readLine?_line, others]
          exact fun impossible => nomatch impossible

/-- Entries without a newline in their text are read back from what was written. -/
theorem read?_encode_text {entries : List Entry}
    (clean : ∀ entry ∈ entries, '\n' ∉ entry.text.toList) :
    read? (Text.encode (text entries)) = some entries := by
  have split : (text entries).toList.splitOn '\n' =
      "00000000 0".toList :: (body entries).splitOn '\n' := by
    have unbroken : '\n' ∉ "00000000 0".toList := by decide
    rw [toList_text]
    exact List.splitOn_append_cons_self_of_not_mem unbroken (body entries)
  rw [read?, Text.decode?_encode, Option.bind_some, readText?, split]
  exact (if_pos rfl).trans (readLines?_body clean)

/-! ## Printing -/

def Entry.printed (entry : Entry) : String :=
  entry.digits ++ " " ++ entry.text ++ "\n"

theorem text_eq_join (entries : List Entry) :
    text entries = header ++ String.join (entries.map Entry.printed) ++ terminator := by
  apply String.toList_inj.1
  have line : ∀ entry : Entry, entry.pieces.flatMap String.toList = entry.printed.toList := by
    intro entry
    simp [Entry.pieces, Entry.printed]
  simp [text, pieces, String.toList_join, List.flatMap_assoc, List.flatMap_map, line]

def twosComplement (word : Int32) : Nat :=
  (word.toInt % 0x100000000).toNat

theorem toNat_toUInt32 (word : Int32) : word.toUInt32.toNat = twosComplement word := by
  have below : word.toUInt32.toNat < 2 ^ 32 := word.toUInt32.toNat_lt
  have signed : word.toInt = if 2 * word.toUInt32.toNat < 2 ^ 32 then
      (word.toUInt32.toNat : Int) else (word.toUInt32.toNat : Int) - (2 ^ 32 : Nat) :=
    BitVec.toInt_eq_toNat_cond word.toBitVec
  rw [twosComplement, signed]
  split
  · omega
  · omega

/-- Addresses have eight digits, whatever their sign. -/
theorem isUpperHex_digits (entry : Entry) :
    IsUpperHex 8 (twosComplement entry.address) entry.digits := by
  rw [← toNat_toUInt32]
  exact isUpperHex_upperHex (by decide) _

/-- A file lists its entries one a line, each address in eight upper-case digits.  The entries are
read back from what was written, whatever their texts hold but newlines, and so no two such lists
have the same file. -/
theorem written_entries_recovered (entries : List Entry)
    (clean : ∀ entry ∈ entries, '\n' ∉ entry.text.toList) :
    let file := (writeTo {} entries).2.taken
    (writeTo {} entries).1 = true ∧
      read? file = some entries ∧
      (∀ others : List Entry, (∀ entry ∈ others, '\n' ∉ entry.text.toList) →
        (writeTo {} others).2.taken = file → others = entries) ∧
      file = Text.encode
        (header ++ String.join (entries.map Entry.printed) ++ terminator) ∧
      ∀ entry : Entry, entry.digits.length = 8 ∧
        IsUpperHex 8 (twosComplement entry.address) entry.digits := by
  intro file
  obtain ⟨ended, taken⟩ := writeTo_new entries
  have written : file = Text.encode (text entries) := taken
  have found : read? file = some entries := written ▸ read?_encode_text clean
  refine ⟨ended, found, ?_, written.trans (congrArg Text.encode (text_eq_join entries)), ?_⟩
  · intro others cleanOthers same
    rw [← same, (writeTo_new others).2, read?_encode_text cleanOthers] at found
    exact Option.some.inj found
  · intro entry
    exact ⟨String.length_toList.symm.trans entry.length_digits, isUpperHex_digits entry⟩

/-- Entries that look like the header, like an entry or like the end of a file, out of order, one
of them twice, and the least and the greatest address. -/
theorem lookalikes_recovered :
    let entries : List Entry :=
      [⟨0, "0"⟩, ⟨-1, "00000000 0"⟩, ⟨-1, "00000000 0"⟩, ⟨0x7FFFFFFF, ""⟩,
        ⟨-0x80000000, ",\x1a 00000010 a\x1a"⟩]
    (∀ entry ∈ entries, '\n' ∉ entry.text.toList) ∧
      read? (writeTo {} entries).2.taken = some entries ∧
      (writeTo {} entries).2.taken = Text.encode ("00000000 0\n00000000 0\n" ++
        "FFFFFFFF 00000000 0\nFFFFFFFF 00000000 0\n7FFFFFFF \n" ++
        "80000000 ,\x1a 00000010 a\x1a\n\x1a") := by
  intro entries
  have clean : ∀ entry ∈ entries, '\n' ∉ entry.text.toList := by decide
  refine ⟨clean, (written_entries_recovered entries clean).2.1, ?_⟩
  decide +kernel

end DebugSymbols.SymbolFile
