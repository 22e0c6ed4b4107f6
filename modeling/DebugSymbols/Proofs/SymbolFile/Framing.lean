import DebugSymbols.Proofs.SymbolFile.Recall
import DebugSymbols.Proofs.Text.Ascii
import Mathlib.Data.List.TakeWhile
/-!
# How a symbol file is framed

In octets, a file is its lines, each with a newline behind it, and then the
terminator.  As long as no line has a newline, there are as many newlines as
lines.  As long as no line has a terminator, it is the only one, and a reader
that stops there has seen every line.
-/

namespace DebugSymbols.SymbolFile

open Text (newline)

def ender : UInt8 := 0x1A

theorem isAscii_ender : Text.IsAscii ender '\x1a' :=
  ⟨by decide, by decide⟩

theorem foreign_ender : Foreign '\x1a' :=
  ⟨by decide, by decide, by decide, fun kind => by cases kind <;> decide⟩

/-! ## Lines -/

def endLines (lines : List (List UInt8)) : List UInt8 :=
  lines.flatMap (· ++ [newline])

section Lines

variable {lines : List (List UInt8)}

theorem endLines_cons (line : List UInt8) (rest : List (List UInt8)) :
    endLines (line :: rest) = line ++ newline :: endLines rest := by
  rw [endLines, List.flatMap_cons, List.append_assoc, List.singleton_append, ← endLines]

theorem mem_endLines_iff {octet : UInt8} (other : octet ≠ newline) :
    octet ∈ endLines lines ↔ ∃ line ∈ lines, octet ∈ line := by
  simp [endLines, List.mem_flatMap, other]

/-- Unbroken lines have the newlines that end them and no others. -/
theorem count_newline_endLines (unbroken : ∀ line ∈ lines, newline ∉ line) :
    (endLines lines).count newline = lines.length := by
  induction lines with
  | nil => rfl
  | cons line rest ih =>
      obtain ⟨here, others⟩ := List.forall_mem_cons.1 unbroken
      rw [endLines_cons, List.count_append, List.count_eq_zero_of_not_mem here, Nat.zero_add,
        List.count_cons_self, ih others, List.length_cons]

theorem splitOn_endLines (unbroken : ∀ line ∈ lines, newline ∉ line) :
    (endLines lines).splitOn newline = lines ++ [[]] := by
  induction lines with
  | nil => rfl
  | cons line rest ih =>
      obtain ⟨here, others⟩ := List.forall_mem_cons.1 unbroken
      rw [endLines_cons, List.splitOn_append_cons_self_of_not_mem here, ih others,
        List.cons_append]

/-- What is joined by newlines begins with all pieces but the last, each ended by one. -/
theorem endLines_dropLast_isPrefix (pieces : List (List UInt8)) :
    endLines pieces.dropLast <+: [newline].intercalate pieces := by
  induction pieces with
  | nil => exact List.prefix_rfl
  | cons first rest ih =>
      cases rest with
      | nil => exact List.nil_prefix
      | cons second others =>
          rw [List.dropLast_cons_cons, endLines_cons, List.intercalate_cons_cons,
            List.append_assoc, List.singleton_append]
          exact (List.prefix_append_right_inj first).2 (List.cons_prefix_cons.2 ⟨rfl, ih⟩)

end Lines

/-- The lines that are seen by a reader that goes no further than the first terminator.  What has
no newline behind it is no line. -/
def shownLines (octets : List UInt8) : List (List UInt8) :=
  ((octets.takeWhile (· ≠ ender)).splitOn newline).dropLast

/-- Behind unbroken lines, the terminator lets a reader see all of them just if they have none. -/
theorem shownLines_eq_iff {lines : List (List UInt8)} (unbroken : ∀ line ∈ lines, newline ∉ line) :
    shownLines (endLines lines ++ [ender]) = lines ↔ ender ∉ endLines lines := by
  constructor
  · intro seen member
    have reached := endLines_dropLast_isPrefix
      (((endLines lines ++ [ender]).takeWhile (· ≠ ender)).splitOn newline)
    rw [← shownLines, seen, List.intercalate_splitOn] at reached
    have other := List.mem_takeWhile_imp (reached.subset member)
    exact of_decide_eq_true other rfl
  · intro absent
    have all : ∀ octet ∈ endLines lines, decide (octet ≠ ender) = true :=
      fun octet member => decide_eq_true fun same => absent (same ▸ member)
    rw [shownLines, List.takeWhile_append_of_pos all, List.takeWhile_cons_of_neg (by simp),
      List.append_nil, splitOn_endLines unbroken, List.dropLast_concat]

/-! ## Files -/

def Entry.octets (entry : Entry) : List UInt8 :=
  Text.encode (entry.digits ++ " " ++ entry.text)

def octetLines (entries : List Entry) : List (List UInt8) :=
  Text.encode "00000000 0" :: entries.map Entry.octets

/-- What a line shows besides the text of its entry is not foreign. -/
theorem Entry.mem_octets_iff {octet : UInt8} {character : Char}
    (ascii : Text.IsAscii octet character) (foreign : Foreign character) (entry : Entry) :
    octet ∈ entry.octets ↔ character ∈ entry.text.toList := by
  have digit : character ∉ entry.digits.toList := not_mem_upperHex foreign.digit
  rw [octets, ascii.mem_encode_iff]
  simp [digit, foreign.blank]

theorem encode_text_eq_endLines (entries : List Entry) :
    Text.encode (text entries) = endLines (octetLines entries) ++ [ender] := by
  have below : (body entries).flatMap String.utf8EncodeChar =
      endLines (entries.map Entry.octets) ++ [ender] := by
    induction entries with
    | nil => rfl
    | cons entry rest ih =>
        have here : entry.line.flatMap String.utf8EncodeChar = entry.octets := by
          simp [Entry.line, Entry.octets, Text.encode]
        rw [body, List.flatMap_append, List.flatMap_cons, here, ih, List.map_cons, endLines_cons,
          List.append_assoc]
        rfl
  rw [Text.encode, toList_text, List.flatMap_append, below, octetLines, endLines_cons,
    List.append_assoc]
  rfl

section Entries

variable {entries : List Entry}

theorem newline_not_mem_octetLines (clean : ∀ entry ∈ entries, '\n' ∉ entry.text.toList) :
    ∀ line ∈ octetLines entries, newline ∉ line := by
  have opening : newline ∉ Text.encode "00000000 0" := by decide
  refine List.forall_mem_cons.2 ⟨opening, fun line member => ?_⟩
  obtain ⟨entry, listed, rfl⟩ := List.mem_map.1 member
  rw [entry.mem_octets_iff .newline foreign_newline]
  exact clean entry listed

/-- Only the texts of entries can bring a terminator into a line. -/
theorem ender_not_mem_endLines_iff :
    ender ∉ endLines (octetLines entries) ↔ ∀ entry ∈ entries, '\x1a' ∉ entry.text.toList := by
  have opening : ender ∉ Text.encode "00000000 0" := by decide
  rw [mem_endLines_iff (by decide), octetLines]
  simp [opening, Entry.mem_octets_iff isAscii_ender foreign_ender]

theorem count_newline_encode_text (clean : ∀ entry ∈ entries, '\n' ∉ entry.text.toList) :
    (Text.encode (text entries)).count newline = entries.length + 1 := by
  have single : newline ∉ [ender] := by decide
  rw [encode_text_eq_endLines, List.count_append, List.count_eq_zero_of_not_mem single,
    count_newline_endLines (newline_not_mem_octetLines clean), octetLines, List.length_cons,
    List.length_map, Nat.add_zero]

theorem getLast?_encode_text (entries : List Entry) :
    (Text.encode (text entries)).getLast? = some ender := by
  rw [encode_text_eq_endLines, List.getLast?_concat]

/-- The terminator is the only one unless an entry's text has another. -/
theorem count_ender_encode_text_eq_one_iff :
    (Text.encode (text entries)).count ender = 1 ↔
      ∀ entry ∈ entries, '\x1a' ∉ entry.text.toList := by
  rw [encode_text_eq_endLines, List.count_append, List.count_singleton_self,
    ← ender_not_mem_endLines_iff, ← List.count_eq_zero]
  omega

/-- A reader that stops at the first terminator has seen every line unless an entry's text has
one. -/
theorem shownLines_encode_text_eq_iff (clean : ∀ entry ∈ entries, '\n' ∉ entry.text.toList) :
    shownLines (Text.encode (text entries)) = octetLines entries ↔
      ∀ entry ∈ entries, '\x1a' ∉ entry.text.toList := by
  rw [encode_text_eq_endLines, shownLines_eq_iff (newline_not_mem_octetLines clean),
    ender_not_mem_endLines_iff]

end Entries

end DebugSymbols.SymbolFile
