import DebugSymbols.Table.FirstOccurrence
/-!
# File tokens

A token stands for a source file without holding its name.  It is the 32-bit
position at which the name was first used, so tokens of one table differ for
different names as long as the table has at most 2³² of them.
-/

namespace DebugSymbols

/-- The identity of a source file: where its name stands in the table that issued it. -/
structure FileToken where
  position : UInt32
  deriving DecidableEq, Repr

/-- The names for which tokens were issued, in order of first use. -/
structure FileTokens where
  names : List String := []
  deriving DecidableEq, Repr, Inhabited

namespace FileTokens

/-- The token of a name once the table has it. -/
def tokenOf (table : FileTokens) (name : String) : FileToken :=
  ⟨UInt32.ofNat (table.names.idxOf name)⟩

def insert (table : FileTokens) (name : String) : FileTokens :=
  ⟨Table.appendNew table.names name⟩

def issue (table : FileTokens) (name : String) : FileToken × FileTokens :=
  (table.tokenOf name, table.insert name)

def find? (table : FileTokens) (name : String) : Option FileToken :=
  if name ∈ table.names then some (table.tokenOf name) else none

def name? (table : FileTokens) (token : FileToken) : Option String :=
  table.names[token.position.toNat]?

theorem find?_eq_some_iff {table : FileTokens} {name : String} {token : FileToken} :
    table.find? name = some token ↔ name ∈ table.names ∧ table.tokenOf name = token := by
  simp [find?]

end FileTokens

end DebugSymbols
