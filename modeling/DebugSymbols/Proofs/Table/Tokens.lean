import DebugSymbols.Table.Tokens
import Mathlib.Data.List.Basic
/-!
# Tokens that have been issued

A name keeps its token while further names are inserted.  As long as the
positions of a table fit in a token, a name is found again under its token, so
different names have different ones.
-/

namespace DebugSymbols.FileTokens

variable {table final : FileTokens} {name other : String}

theorem names_isPrefix_insert (table : FileTokens) (name : String) :
    table.names <+: (table.insert name).names :=
  Table.isPrefix_appendNew table.names name

theorem mem_names_insert (table : FileTokens) (name : String) :
    name ∈ (table.insert name).names :=
  Table.mem_appendNew.2 (Or.inr rfl)

/-- A name that has been inserted is not inserted again. -/
theorem insert_eq_of_isPrefix (known : (table.insert name).names <+: final.names) :
    final.insert name = final :=
  congrArg FileTokens.mk
    (Table.appendNew_of_mem (known.subset (table.mem_names_insert name)))

/-- A name keeps its token while further ones are inserted. -/
theorem tokenOf_eq_of_isPrefix (member : name ∈ table.names)
    (known : table.names <+: final.names) : final.tokenOf name = table.tokenOf name := by
  obtain ⟨more, same⟩ := known
  rw [tokenOf, tokenOf, ← same, List.idxOf_append_of_mem member]

/-! ## Names behind tokens -/

section Fits

variable (fits : table.names.length ≤ UInt32.size)
include fits

theorem name?_tokenOf (member : name ∈ table.names) :
    table.name? (table.tokenOf name) = some name := by
  have within : table.names.idxOf name < UInt32.size :=
    Nat.lt_of_lt_of_le (List.idxOf_lt_length_of_mem member) fits
  have position : (table.tokenOf name).position.toNat = table.names.idxOf name :=
    UInt32.toNat_ofNat_of_lt' within
  rw [name?, position, List.getElem?_idxOf member]

theorem tokenOf_injective (member : name ∈ table.names) (memberOther : other ∈ table.names)
    (same : table.tokenOf name = table.tokenOf other) : name = other := by
  have found := name?_tokenOf fits member
  rw [same, name?_tokenOf fits memberOther] at found
  exact (Option.some.inj found).symm

end Fits

end DebugSymbols.FileTokens
