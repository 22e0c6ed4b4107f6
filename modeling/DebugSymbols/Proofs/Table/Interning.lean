import DebugSymbols.Proofs.Table.Keyed
import DebugSymbols.Proofs.Table.Tokens
import DebugSymbols.Table.Paths
import Mathlib.Data.Finset.Card
import Mathlib.Data.List.DropRight
/-!
# Interning

Two tables intern texts: source paths under indices, names of source files
under tokens.  Whatever has been asked of a table, it holds each text once, in
order of first use, and what it gave out for a text keeps standing for that
text.  Tokens have 32 bits, so they tell names apart exactly as long as there
are at most 2³² of them.
-/

namespace DebugSymbols

namespace Table

/-- Different items are as many as first occurrences. -/
theorem card_toFinset {α : Type} [DecidableEq α] (items : List α) :
    items.toFinset.card = items.eraseDups.length := by
  have same : items.toFinset = items.eraseDups.toFinset := by
    ext item
    rw [List.mem_toFinset, List.mem_toFinset, List.mem_eraseDups]
  rw [same, List.toFinset_card_of_nodup (nodup_eraseDups items)]

section Runs

variable {State Call Item : Type} [DecidableEq Item] {step : State → Call → State}
  {items : State → List Item} {added? : Call → Option Item} {calls : List Call}

/-- A run of calls that each add at most one item adds these items one by one. -/
theorem items_foldl (state : State)
    (adds : ∀ before, ∀ call ∈ calls,
      items (step before call) = (added? call).elim (items before) (appendNew (items before))) :
    items (calls.foldl step state) = (calls.filterMap added?).foldl appendNew (items state) := by
  induction calls generalizing state with
  | nil => rfl
  | cons call rest ih =>
      have here := adds state call List.mem_cons_self
      rw [List.foldl_cons, ih (step state call) fun before other mem =>
        adds before other (List.mem_cons_of_mem call mem), here]
      cases added : added? call with
      | none => rw [List.filterMap_cons_none added, Option.elim_none]
      | some item => rw [List.filterMap_cons_some added, Option.elim_some, List.foldl_cons]

theorem items_foldl_of_empty {state : State} (empty : items state = [])
    (adds : ∀ before, ∀ call ∈ calls,
      items (step before call) = (added? call).elim (items before) (appendNew (items before))) :
    items (calls.foldl step state) = (calls.filterMap added?).eraseDups := by
  rw [items_foldl state adds, empty]
  exact foldl_appendNew_eraseDups [] _

theorem isPrefix_items_foldl (state : State)
    (adds : ∀ before, ∀ call ∈ calls,
      items (step before call) = (added? call).elim (items before) (appendNew (items before))) :
    items state <+: items (calls.foldl step state) := by
  rw [items_foldl state adds]
  exact isPrefix_foldl_appendNew _ _

end Runs

end Table

/-! ## Paths -/

namespace PathTable

inductive Call where
  | intern (path : String)
  | get (index : Nat)
  | size
  | list
  | clear
  deriving DecidableEq, Repr

inductive Reply where
  | index (value : Nat)
  | path (found : Option String)
  | size (value : Nat)
  | list (paths : List String)
  | cleared
  deriving DecidableEq, Repr

def step (table : PathTable) : Call → Reply × PathTable
  | .intern path => (.index (table.intern path).1, (table.intern path).2)
  | .get index => (.path (table.path? index), table)
  | .size => (.size table.size, table)
  | .list => (.list table.paths, table)
  | .clear => (.cleared, {})

def run (table : PathTable) (calls : List Call) : PathTable :=
  calls.foldl (fun state call => (state.step call).2) table

theorem run_append (table : PathTable) (first second : List Call) :
    table.run (first ++ second) = (table.run first).run second :=
  List.foldl_append

def Call.interned? : Call → Option String
  | .intern path => some path
  | _ => none

/-- The paths interned since the last clearing, in order and as often as they were interned. -/
def interned (calls : List Call) : List String :=
  (calls.rtakeWhile (· ≠ .clear)).filterMap Call.interned?

/-- A call that does not clear adds the path that it interns, if any. -/
theorem paths_step (table : PathTable) {call : Call} (other : call ≠ .clear) :
    (table.step call).2.paths =
      call.interned?.elim table.paths (Table.appendNew table.paths) := by
  cases call with
  | clear => exact absurd rfl other
  | _ => rfl

/-- What was asked up to the last clearing has left nothing. -/
theorem run_rdropWhile (calls : List Call) : run {} (calls.rdropWhile (· ≠ .clear)) = {} := by
  induction calls using List.reverseRecOn with
  | nil => rfl
  | append_singleton calls call ih =>
      by_cases clearing : call = .clear
      · rw [List.rdropWhile_concat_neg _ _ _ (by simp [clearing]), clearing, run_append]
        rfl
      · rw [List.rdropWhile_concat_pos _ _ _ (by simp [clearing]), ih]

/-- A table holds the paths interned since the last clearing, each once. -/
theorem paths_run (calls : List Call) : (run {} calls).paths = (interned calls).eraseDups := by
  have adds : ∀ table : PathTable, ∀ call ∈ calls.rtakeWhile (· ≠ .clear),
      (table.step call).2.paths =
        call.interned?.elim table.paths (Table.appendNew table.paths) := by
    intro table call mem
    have kept : ∀ other ∈ calls.rtakeWhile (· ≠ .clear), decide (other ≠ .clear) = true :=
      fun _ => List.mem_rtakeWhile_imp
    exact table.paths_step (of_decide_eq_true (kept call mem))
  calc
    (run {} calls).paths
      = (run {} (calls.rdropWhile (· ≠ .clear) ++ calls.rtakeWhile (· ≠ .clear))).paths := by
        rw [List.rdropWhile_append_rtakeWhile]
    _ = (run {} (calls.rtakeWhile (· ≠ .clear))).paths := by rw [run_append, run_rdropWhile]
    _ = (interned calls).eraseDups := Table.items_foldl_of_empty rfl adds

/-- Until a table is cleared it only grows. -/
theorem isPrefix_run (table : PathTable) {later : List Call} (uncleared : .clear ∉ later) :
    table.paths <+: (table.run later).paths :=
  Table.isPrefix_items_foldl table fun before _ mem =>
    before.paths_step fun same => uncleared (same ▸ mem)

/-- A path keeps its index until the table is cleared. -/
theorem indexOf_run (table : PathTable) (path : String) {later : List Call}
    (uncleared : .clear ∉ later) :
    ((table.insert path).run later).indexOf path = table.indexOf path ∧
      ((table.insert path).run later).path? (table.indexOf path) = some path := by
  have member : path ∈ (table.insert path).paths := Table.mem_appendNew.2 (Or.inr rfl)
  have known := (table.insert path).isPrefix_run uncleared
  have same : ((table.insert path).run later).indexOf path = table.indexOf path := by
    obtain ⟨more, same⟩ := known
    rw [indexOf, ← same, List.idxOf_append_of_mem member]
    exact Table.idxOf_appendNew table.paths path
  refine ⟨same, ?_⟩
  rw [← same]
  exact List.getElem?_idxOf (known.subset member)

/-- The table answers as the list of the paths that were interned, each once and in order of first
use. -/
structure Lists (table : PathTable) (interned : List String) : Prop where
  list : (table.step .list).1 = .list interned.eraseDups
  once : interned.eraseDups.Nodup
  size : (table.step .size).1 = .size interned.toFinset.card
  get : ∀ index path,
    (table.step (.get index)).1 = .path (some path) ↔ interned.eraseDups[index]? = some path
  intern : ∀ path, ∃ index, (table.step (.intern path)).1 = .index index ∧
    (interned ++ [path]).eraseDups[index]? = some path ∧
    ∀ later, .clear ∉ later →
      (((table.step (.intern path)).2.run later).step (.get index)).1 = .path (some path) ∧
      (((table.step (.intern path)).2.run later).step (.intern path)).1 = .index index

theorem lists_run (calls : List Call) : (run {} calls).Lists (interned calls) := by
  have paths := paths_run calls
  refine ⟨congrArg Reply.list paths, Table.nodup_eraseDups _, ?_, fun index path => ?_,
    fun path => ⟨(run {} calls).indexOf path, rfl, ?_, fun later uncleared => ?_⟩⟩
  · rw [Table.card_toFinset, ← paths]
    rfl
  · rw [← paths]
    exact Reply.path.injEq _ _ ▸ Iff.rfl
  · rw [Table.eraseDups_concat, ← paths]
    exact path?_insert_indexOf _ path
  · obtain ⟨same, found⟩ := (run {} calls).indexOf_run path uncleared
    exact ⟨congrArg Reply.path found, congrArg Reply.index same⟩

end PathTable

/-! ## Tokens -/

namespace FileTokens

inductive Call where
  | issue (name : String)
  | find (name : String)
  | nameOf (token : FileToken)
  deriving DecidableEq, Repr

inductive Reply where
  | issued (token : FileToken)
  | found (token : Option FileToken)
  | named (name : Option String)
  deriving DecidableEq, Repr

def step (table : FileTokens) : Call → Reply × FileTokens
  | .issue name => (.issued (table.issue name).1, (table.issue name).2)
  | .find name => (.found (table.find? name), table)
  | .nameOf token => (.named (table.name? token), table)

def run (table : FileTokens) (calls : List Call) : FileTokens :=
  calls.foldl (fun state call => (state.step call).2) table

def Call.asked? : Call → Option String
  | .issue name => some name
  | _ => none

/-- The names for which tokens were asked, in order and as often as they were asked. -/
def asked (calls : List Call) : List String :=
  calls.filterMap Call.asked?

theorem run_append (table : FileTokens) (first second : List Call) :
    table.run (first ++ second) = (table.run first).run second :=
  List.foldl_append

theorem mem_asked_iff {calls : List Call} {name : String} :
    name ∈ asked calls ↔ .issue name ∈ calls := by
  rw [asked, List.mem_filterMap]
  constructor
  · rintro ⟨call, member, same⟩
    cases call with
    | issue other => exact Option.some.inj same ▸ member
    | _ => cases same
  · intro member
    exact ⟨_, member, rfl⟩

/-- A call adds the name for which it asks a token, and changes nothing else. -/
theorem names_step (table : FileTokens) (call : Call) :
    (table.step call).2.names = call.asked?.elim table.names (Table.appendNew table.names) := by
  cases call with
  | _ => rfl

theorem names_run (calls : List Call) : (run {} calls).names = (asked calls).eraseDups :=
  Table.items_foldl_of_empty rfl fun table call _ => table.names_step call

theorem isPrefix_run (table : FileTokens) (later : List Call) :
    table.names <+: (table.run later).names :=
  Table.isPrefix_items_foldl table fun before call _ => before.names_step call

/-- In one of the calls the token was issued for the name. -/
def Issued (calls : List Call) (name : String) (token : FileToken) : Prop :=
  ∃ earlier later, calls = earlier ++ .issue name :: later ∧
    ((run {} earlier).step (.issue name)).1 = .issued token

/-- What was issued for a name is what the table has for it ever after. -/
theorem issued_iff {calls : List Call} {name : String} {token : FileToken} :
    Issued calls name token ↔ name ∈ asked calls ∧ (run {} calls).tokenOf name = token := by
  have kept (earlier later : List Call) :
      (run {} (earlier ++ .issue name :: later)).tokenOf name = (run {} earlier).tokenOf name := by
    have known := ((run {} earlier).insert name).isPrefix_run later
    rw [run_append]
    refine (tokenOf_eq_of_isPrefix (mem_names_insert _ name) known).trans ?_
    exact congrArg (FileToken.mk ∘ UInt32.ofNat) (Table.idxOf_appendNew _ name)
  constructor
  · rintro ⟨earlier, later, rfl, answered⟩
    refine ⟨mem_asked_iff.2 (List.mem_append_right _ List.mem_cons_self), ?_⟩
    rw [kept]
    exact Reply.issued.inj answered
  · rintro ⟨member, same⟩
    obtain ⟨earlier, later, rfl⟩ := List.append_of_mem (mem_asked_iff.1 member)
    exact ⟨earlier, later, rfl, congrArg Reply.issued ((kept earlier later).symm.trans same)⟩

theorem Issued.unique {calls : List Call} {name : String} {token other : FileToken}
    (issued : Issued calls name token) (again : Issued calls name other) : token = other :=
  (issued_iff.1 issued).2.symm.trans (issued_iff.1 again).2

theorem mem_names_run_iff {calls : List Call} {name : String} :
    name ∈ (run {} calls).names ↔ name ∈ asked calls := by
  rw [names_run, List.mem_eraseDups]

/-- The table tells a token just if it has been issued. -/
theorem find?_run_eq_some_iff {calls : List Call} {name : String} {token : FileToken} :
    (run {} calls).find? name = some token ↔ Issued calls name token := by
  rw [find?_eq_some_iff, issued_iff, mem_names_run_iff]

/-- The token of a name is its place among the names in order of first use. -/
theorem issued_iff_position {calls : List Call} {name : String} {token : FileToken} :
    Issued calls name token ↔
      ∃ position : Nat, (asked calls).eraseDups[position]? = some name ∧
        ⟨UInt32.ofNat position⟩ = token := by
  rw [issued_iff, ← mem_names_run_iff, ← names_run]
  constructor
  · rintro ⟨member, same⟩
    exact ⟨_, List.getElem?_idxOf member, same⟩
  · rintro ⟨position, standing, same⟩
    have once : (run {} calls).names.Nodup := names_run calls ▸ Table.nodup_eraseDups _
    refine ⟨List.mem_of_getElem? standing, ?_⟩
    obtain ⟨within, rfl⟩ := List.getElem?_eq_some_iff.1 standing
    rw [tokenOf, once.idxOf_getElem, same]

/-! ### How many names tokens tell apart -/

section Bound

variable {calls others : List Call} {name other : String} {token tokenOther : FileToken}

theorem length_names_run_le_iff :
    (run {} calls).names.length ≤ UInt32.size ↔ (asked calls).toFinset.card ≤ UInt32.size := by
  rw [names_run, Table.card_toFinset]

/-- Tokens tell names apart exactly as long as there are at most 2³² of them. -/
theorem issued_injective_iff :
    (∀ name other token, Issued calls name token → Issued calls other token → name = other) ↔
      (asked calls).toFinset.card ≤ UInt32.size := by
  constructor
  · intro injective
    by_contra many
    have within : UInt32.size < (asked calls).eraseDups.length := by
      rw [← Table.card_toFinset]
      exact Nat.lt_of_not_le many
    have first := List.getElem?_eq_getElem (Nat.zero_lt_of_lt within)
    have last := List.getElem?_eq_getElem within
    -- The position 2³² has no bits left, so its name has the token of the very first one.
    have same := injective _ _ _ (issued_iff_position.2 ⟨0, first, rfl⟩)
      (issued_iff_position.2 ⟨UInt32.size, last, by decide⟩)
    exact absurd ((Table.nodup_eraseDups _).getElem_inj_iff.1 same) (by decide)
  · intro fits name other token issued issuedOther
    have fitting := length_names_run_le_iff.2 fits
    obtain ⟨member, rfl⟩ := issued_iff.1 issued
    obtain ⟨memberOther, same⟩ := issued_iff.1 issuedOther
    exact tokenOf_injective fitting (mem_names_run_iff.2 member)
      (mem_names_run_iff.2 memberOther) same.symm

/-- Positions below 2³² keep all their bits in a token. -/
theorem lt_size_of_standing (fits : (asked calls).toFinset.card ≤ UInt32.size) {position : Nat}
    (standing : (asked calls).eraseDups[position]? = some name) : position < UInt32.size := by
  obtain ⟨within, _⟩ := List.getElem?_eq_some_iff.1 standing
  rw [← Table.card_toFinset] at within
  exact Nat.lt_of_lt_of_le within fits

/-- Tokens of two tables are equal just if they were issued for the same position. -/
theorem token_eq_iff (fits : (asked calls).toFinset.card ≤ UInt32.size)
    (fitsOther : (asked others).toFinset.card ≤ UInt32.size) (issued : Issued calls name token)
    (issuedOther : Issued others other tokenOther) :
    token = tokenOther ↔ ∃ position : Nat, (asked calls).eraseDups[position]? = some name ∧
      (asked others).eraseDups[position]? = some other := by
  obtain ⟨position, standing, rfl⟩ := issued_iff_position.1 issued
  obtain ⟨place, there, rfl⟩ := issued_iff_position.1 issuedOther
  constructor
  · intro same
    have equal := congrArg (fun token : FileToken => token.position.toNat) same
    have left : (UInt32.ofNat position).toNat = position :=
      UInt32.toNat_ofNat_of_lt' (lt_size_of_standing fits standing)
    have right : (UInt32.ofNat place).toNat = place :=
      UInt32.toNat_ofNat_of_lt' (lt_size_of_standing fitsOther there)
    cases left.symm.trans (equal.trans right)
    exact ⟨position, standing, there⟩
  · rintro ⟨common, here, hereOther⟩
    have first := issued.unique (issued_iff_position.2 ⟨common, here, rfl⟩)
    have second := issuedOther.unique (issued_iff_position.2 ⟨common, hereOther, rfl⟩)
    exact first.trans second.symm

end Bound

/-! ### What a table answers -/

/-- The tokens of a table identify names: each name for which a token is asked gets one, no other
name gets the same, and the table tells the name behind a token and the token of a name. -/
structure Identifies (calls : List Call) : Prop where
  issued : ∀ name, .issue name ∈ calls → ∃ token, Issued calls name token
  injective : ∀ name token other tokenOther, Issued calls name token →
    Issued calls other tokenOther → (token = tokenOther ↔ name = other)
  nameOf : ∀ name token, Issued calls name token →
    ((run {} calls).step (.nameOf token)).1 = .named (some name)
  find : ∀ name token,
    ((run {} calls).step (.find name)).1 = .found (some token) ↔ Issued calls name token
  unchanged : ∀ call, call.asked? = none → ((run {} calls).step call).2 = run {} calls

theorem identifies {calls : List Call} (fits : (asked calls).toFinset.card ≤ UInt32.size) :
    Identifies calls where
  issued := fun name member => ⟨_, issued_iff.2 ⟨mem_asked_iff.2 member, rfl⟩⟩
  injective := by
    intro name token other tokenOther issued issuedOther
    constructor
    · rintro rfl
      exact issued_injective_iff.2 fits name other token issued issuedOther
    · rintro rfl
      exact issued.unique issuedOther
  nameOf := by
    intro name token issued
    obtain ⟨member, rfl⟩ := issued_iff.1 issued
    exact congrArg Reply.named
      (name?_tokenOf (length_names_run_le_iff.2 fits) (mem_names_run_iff.2 member))
  find := by
    intro name token
    rw [← find?_run_eq_some_iff]
    exact ⟨Reply.found.inj, congrArg Reply.found⟩
  unchanged := by
    intro call silent
    have names := (run {} calls).names_step call
    rw [silent] at names
    exact congrArg FileTokens.mk names

end FileTokens

/-- Whatever is asked of a table of paths and of tables of tokens with at most 2³² names each, the
first lists the paths interned since the last clearing, and the tokens of the others identify
names.  Tokens of two tables are equal just if their names were used first at the same position. -/
theorem interning_stable (pathCalls : List PathTable.Call) (calls others : List FileTokens.Call)
    (fits : (FileTokens.asked calls).toFinset.card ≤ UInt32.size)
    (fitsOther : (FileTokens.asked others).toFinset.card ≤ UInt32.size) :
    (PathTable.run {} pathCalls).Lists (PathTable.interned pathCalls) ∧
      FileTokens.Identifies calls ∧
      ∀ name token other tokenOther, FileTokens.Issued calls name token →
        FileTokens.Issued others other tokenOther →
          (token = tokenOther ↔
            ∃ position : Nat, (FileTokens.asked calls).eraseDups[position]? = some name ∧
              (FileTokens.asked others).eraseDups[position]? = some other) := by
  refine ⟨PathTable.lists_run pathCalls, FileTokens.identifies fits, ?_⟩
  intro name token other tokenOther issued issuedOther
  exact FileTokens.token_eq_iff fits fitsOther issued issuedOther

/-- One name may have different tokens in two tables, and two names may share one. -/
theorem interning_stable_of_shared_name :
    let calls : List FileTokens.Call :=
      [.issue "a.s", .find "b.s", .issue "b.s", .issue "a.s"]
    let others : List FileTokens.Call := [.issue "b.s", .nameOf ⟨0⟩]
    let pathCalls : List PathTable.Call :=
      [.intern "x.s", .clear, .intern "main.s", .intern "lib.s", .intern "main.s"]
    (FileTokens.asked calls).toFinset.card ≤ UInt32.size ∧
      (FileTokens.asked others).toFinset.card ≤ UInt32.size ∧
      (PathTable.run {} pathCalls).Lists ["main.s", "lib.s", "main.s"] ∧
      FileTokens.Identifies calls ∧
      ∀ token tokenOther, FileTokens.Issued others "b.s" tokenOther →
        (FileTokens.Issued calls "a.s" token → token = tokenOther) ∧
          (FileTokens.Issued calls "b.s" token → token ≠ tokenOther) := by
  intro calls others pathCalls
  have fits : (FileTokens.asked calls).toFinset.card ≤ UInt32.size := by decide
  have fitsOther : (FileTokens.asked others).toFinset.card ≤ UInt32.size := by decide
  obtain ⟨lists, identifies, aligned⟩ := interning_stable pathCalls calls others fits fitsOther
  have names : (FileTokens.asked calls).eraseDups = ["a.s", "b.s"] := by decide
  have namesOther : (FileTokens.asked others).eraseDups = ["b.s"] := by decide
  rw [names, namesOther] at aligned
  refine ⟨fits, fitsOther, lists, identifies, fun token tokenOther issuedOther => ⟨?_, ?_⟩⟩
  · intro issued
    exact (aligned _ _ _ _ issued issuedOther).2 ⟨0, rfl, rfl⟩
  · intro issued same
    obtain ⟨position, here, there⟩ := (aligned _ _ _ _ issued issuedOther).1 same
    cases position with
    | zero => exact absurd here (by decide)
    | succ position => cases there

end DebugSymbols
