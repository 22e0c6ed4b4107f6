import DebugSymbols.Proofs.Recorder.History
import DebugSymbols.Proofs.Table.Keyed
import DebugSymbols.Proofs.Trace.Moves
import Mathlib.Data.List.Perm.Subperm
/-!
# Names in traces

The moves of a replay bring up the names of modules.  A name stands once it has
been started, until another one is started or it is ended itself.
-/

namespace DebugSymbols.Trace

def Move.started? : Move → Option String
  | .perform _ (.startModule name) => some name
  | _ => none

def Move.ended? : Move → Option String
  | .perform _ (.endModule name) => some name
  | _ => none

def Move.named? (move : Move) : Option String :=
  move.started? <|> move.ended?

def namesIn (moves : List Move) : List String :=
  (moves.filterMap Move.named?).eraseDups

def startedIn (moves : List Move) : List String :=
  (moves.filterMap Move.started?).eraseDups

/-- The name is that of the latest start, and it has not been ended since. -/
def Standing (past : List Move) (name : String) : Prop :=
  ∃ earlier start later, past = earlier ++ start :: later ∧ start.started? = some name ∧
    ∀ move ∈ later, move.started? = none ∧ move.ended? ≠ some name

section Names

variable {past : List Move} {move : Move} {name : String}

theorem namesIn_concat (past : List Move) (move : Move) :
    namesIn (past ++ [move]) =
      move.named?.elim (namesIn past) (Table.appendNew (namesIn past)) := by
  rw [namesIn, filterMap_concat, Table.eraseDups_append_toList]
  rfl

theorem startedIn_concat (past : List Move) (move : Move) :
    startedIn (past ++ [move]) =
      move.started?.elim (startedIn past) (Table.appendNew (startedIn past)) := by
  rw [startedIn, filterMap_concat, Table.eraseDups_append_toList]
  rfl

theorem startedIn_subset (past : List Move) : startedIn past ⊆ namesIn past := by
  intro name member
  obtain ⟨move, standing, started⟩ := List.mem_filterMap.1 (List.mem_eraseDups.1 member)
  refine List.mem_eraseDups.2 (List.mem_filterMap.2 ⟨move, standing, ?_⟩)
  rw [Move.named?, started]
  rfl

/-- More moves have no fewer names. -/
theorem length_namesIn_le {first second : List Move} (subset : first ⊆ second) :
    (namesIn first).length ≤ (namesIn second).length := by
  have names : namesIn first ⊆ namesIn second := by
    intro name member
    exact List.mem_eraseDups.2
      (List.filterMap_subset Move.named? subset (List.mem_eraseDups.1 member))
  exact ((Table.nodup_eraseDups _).subperm names).length_le

theorem not_standing_nil : ¬Standing [] name := by
  rintro ⟨earlier, start, later, split, _⟩
  exact List.append_ne_nil_of_right_ne_nil earlier (List.cons_ne_nil start later) split.symm

theorem standing_concat_iff : Standing (past ++ [move]) name ↔
    move.started? = some name ∨
      move.started? = none ∧ move.ended? ≠ some name ∧ Standing past name := by
  constructor
  · rintro ⟨earlier, start, later, split, begun, quiet⟩
    rcases later.eq_nil_or_concat with rfl | ⟨later, last, rfl⟩
    · obtain ⟨_, rfl⟩ := List.append_singleton_inj.1 split
      exact Or.inl begun
    · rw [List.concat_eq_append] at split quiet
      rw [← List.cons_append, ← List.append_assoc] at split
      obtain ⟨rfl, rfl⟩ := List.append_singleton_inj.1 split
      obtain ⟨unstarted, unended⟩ :=
        quiet move (List.mem_append_right _ List.mem_cons_self)
      exact Or.inr ⟨unstarted, unended, earlier, start, later, rfl, begun,
        fun other member => quiet other (List.mem_append_left _ member)⟩
  · rintro (begun | ⟨unstarted, unended, earlier, start, later, rfl, begun, quiet⟩)
    · exact ⟨past, move, [], rfl, begun, fun _ member => nomatch member⟩
    · refine ⟨earlier, start, later ++ [move], ?_, begun, fun other member => ?_⟩
      · rw [List.append_assoc, List.cons_append]
      · rcases List.mem_append.1 member with earlier | last
        · exact quiet other earlier
        · exact List.mem_singleton.1 last ▸ ⟨unstarted, unended⟩

theorem Standing.mem_startedIn (standing : Standing past name) : name ∈ startedIn past := by
  obtain ⟨earlier, start, later, rfl, begun, _⟩ := standing
  exact List.mem_eraseDups.2 (List.mem_filterMap.2
    ⟨start, List.mem_append_right _ List.mem_cons_self, begun⟩)

/-- Ending a name that does not stand makes no difference later. -/
theorem standing_append_cons_iff {later : List Move} {index : Nat} {ended : String}
    (fallen : ¬Standing past ended) :
    Standing (past ++ .perform index (.endModule ended) :: later) name ↔
      Standing (past ++ later) name := by
  induction later using List.reverseRecOn with
  | nil =>
      rw [standing_concat_iff, List.append_nil]
      constructor
      · rintro (begun | ⟨_, _, standing⟩)
        · cases begun
        · exact standing
      · intro standing
        refine Or.inr ⟨rfl, ?_, standing⟩
        rintro same
        cases same
        exact fallen standing
  | append_singleton later move ih =>
      rw [← List.cons_append, ← List.append_assoc, ← List.append_assoc, standing_concat_iff,
        standing_concat_iff, ih]

end Names

end DebugSymbols.Trace
