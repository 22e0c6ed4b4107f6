import DebugSymbols.Table.FirstOccurrence
/-!
# The table of source paths

Recorded addresses name their source file by its index in one table of paths.
A path keeps the index of its first use until the table is emptied.
-/

namespace DebugSymbols

/-- Source paths in order of first use. -/
structure PathTable where
  paths : List String := []
  deriving DecidableEq, Repr, Inhabited

namespace PathTable

def size (table : PathTable) : Nat := table.paths.length

def insert (table : PathTable) (path : String) : PathTable :=
  ⟨Table.appendNew table.paths path⟩

def indexOf (table : PathTable) (path : String) : Nat :=
  table.paths.idxOf path

def intern (table : PathTable) (path : String) : Nat × PathTable :=
  (table.indexOf path, table.insert path)

def path? (table : PathTable) (index : Nat) : Option String :=
  table.paths[index]?

theorem path?_insert_indexOf (table : PathTable) (path : String) :
    (table.insert path).path? (table.indexOf path) = some path :=
  Table.getElem?_appendNew_idxOf table.paths path

theorem path?_insert {table : PathTable} {path found : String} {index : Nat}
    (standing : table.path? index = some found) :
    (table.insert path).path? index = some found :=
  Table.getElem?_appendNew standing

theorem lt_size_insert {table : PathTable} {path : String} {index : Nat} :
    index < (table.insert path).size ↔ index < table.size ∨ index = table.indexOf path := by
  by_cases known : path ∈ table.paths
  · have within : table.indexOf path < table.size := List.idxOf_lt_length_of_mem known
    have same : table.insert path = table := congrArg PathTable.mk (Table.appendNew_of_mem known)
    rw [same]
    omega
  · have last : table.indexOf path = table.size := List.idxOf_eq_length known
    have grown : (table.insert path).size = table.size + 1 := by
      rw [insert, size, Table.appendNew_of_not_mem known, List.length_append]
      rfl
    omega

end PathTable

end DebugSymbols
