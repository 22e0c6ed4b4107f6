import DebugSymbols.Table.FirstOccurrence
import Mathlib.Data.List.Induction
import Mathlib.Data.List.Nodup
/-!
# Lists of items with keys

If no two items share a key, looking a key up finds its item.  From any list,
`firstBy` keeps the items whose key no earlier item has: it meets every key of
the list, and an item added behind the list is kept just when its key is new.
-/

namespace DebugSymbols.Table

variable {α κ : Type} [BEq κ] [LawfulBEq κ]

/-- Among items with different keys, each is found under its own. -/
theorem find?_eq_some_iff_of_nodup {key : α → κ} {items : List α}
    (once : (items.map key).Nodup) {value : κ} {item : α} :
    items.find? (key · == value) = some item ↔ item ∈ items ∧ key item = value := by
  constructor
  · intro found
    have same := List.find?_some found
    exact ⟨List.mem_of_find?_eq_some found, by simpa using same⟩
  · rintro ⟨member, rfl⟩
    cases found : items.find? (key · == key item) with
    | none => exact absurd (beq_self_eq_true (key item)) (List.find?_eq_none.1 found item member)
    | some other =>
        have matched := List.find?_some found
        have same := List.inj_on_of_nodup_map once (List.mem_of_find?_eq_some found) member
          (by simpa using matched)
        rw [same]

theorem lookup_eq_none_iff_not_mem {pairs : List (κ × α)} {value : κ} :
    pairs.lookup value = none ↔ value ∉ pairs.map Prod.fst := by
  rw [List.lookup_eq_none_iff, List.mem_map]
  constructor
  · rintro absent ⟨pair, member, rfl⟩
    simpa using absent pair member
  · intro absent pair member
    simpa using fun same => absent ⟨pair, member, same.symm⟩

/-- Where no two pairs share a key, looking a key up finds the pair that has it. -/
theorem lookup_eq_some_iff_mem {pairs : List (κ × α)} (once : (pairs.map Prod.fst).Nodup)
    {value : κ} {item : α} :
    pairs.lookup value = some item ↔ (value, item) ∈ pairs := by
  constructor
  · intro found
    obtain ⟨earlier, later, rfl, _⟩ := List.lookup_eq_some_iff.1 found
    exact List.mem_append_right _ List.mem_cons_self
  · intro member
    cases found : pairs.lookup value with
    | none =>
        exact absurd (List.mem_map_of_mem member) (lookup_eq_none_iff_not_mem.1 found)
    | some other =>
        obtain ⟨earlier, later, split, _⟩ := List.lookup_eq_some_iff.1 found
        have standing : (value, other) ∈ pairs :=
          split ▸ List.mem_append_right _ List.mem_cons_self
        have same := List.inj_on_of_nodup_map once standing member rfl
        cases same
        rfl

/-- The items whose key no earlier item has. -/
def firstBy (key : α → κ) (items : List α) : List α :=
  items.eraseDupsBy fun later earlier => key later == key earlier

omit [BEq κ] [LawfulBEq κ] in
/-- The loop of `eraseDupsBy` keeps its last item unless what it has kept so far covers it. -/
theorem eraseDupsBy_loop_concat (same : α → α → Bool) (items kept : List α) (item : α) :
    List.eraseDupsBy.loop same (items ++ [item]) kept =
      if (List.eraseDupsBy.loop same items kept).any (same item) then
        List.eraseDupsBy.loop same items kept
      else List.eraseDupsBy.loop same items kept ++ [item] := by
  induction items generalizing kept with
  | nil =>
      simp only [List.nil_append, List.eraseDupsBy.loop, List.any_reverse]
      cases kept.any (same item) <;> simp
  | cons first rest ih =>
      cases covered : kept.any (same first) with
      | true => simpa only [List.cons_append, List.eraseDupsBy.loop, covered] using ih kept
      | false =>
          simpa only [List.cons_append, List.eraseDupsBy.loop, covered] using ih (first :: kept)

theorem firstBy_concat_of_mem {key : α → κ} {items : List α} {item : α}
    (known : key item ∈ (firstBy key items).map key) :
    firstBy key (items ++ [item]) = firstBy key items := by
  have covered : (firstBy key items).any (fun earlier => key item == key earlier) = true := by
    obtain ⟨earlier, member, same⟩ := List.mem_map.1 known
    exact List.any_eq_true.2 ⟨earlier, member, beq_iff_eq.2 same.symm⟩
  exact (eraseDupsBy_loop_concat _ items [] item).trans (if_pos covered)

theorem firstBy_concat_of_not_mem {key : α → κ} {items : List α} {item : α}
    (fresh : key item ∉ (firstBy key items).map key) :
    firstBy key (items ++ [item]) = firstBy key items ++ [item] := by
  have uncovered : ¬(firstBy key items).any (fun earlier => key item == key earlier) = true := by
    intro covered
    obtain ⟨earlier, member, same⟩ := List.any_eq_true.1 covered
    exact fresh (List.mem_map.2 ⟨earlier, member, (beq_iff_eq.1 same).symm⟩)
  exact (eraseDupsBy_loop_concat _ items [] item).trans (if_neg uncovered)

/-- No key is lost. -/
theorem mem_map_firstBy {key : α → κ} {items : List α} {value : κ} :
    value ∈ (firstBy key items).map key ↔ value ∈ items.map key := by
  induction items using List.reverseRecOn with
  | nil => exact Iff.rfl
  | append_singleton items item ih =>
      rw [List.map_append, List.mem_append, ← ih]
      by_cases known : key item ∈ (firstBy key items).map key
      · rw [firstBy_concat_of_mem known]
        refine ⟨Or.inl, ?_⟩
        rintro (member | last)
        · exact member
        · exact List.mem_singleton.1 last ▸ known
      · rw [firstBy_concat_of_not_mem known, List.map_append, List.mem_append]

/-- What is kept comes before all others with its key. -/
theorem exists_of_mem_firstBy {key : α → κ} {items : List α} {item : α}
    (kept : item ∈ firstBy key items) :
    ∃ earlier later, items = earlier ++ item :: later ∧
      ∀ other ∈ earlier, key other ≠ key item := by
  induction items using List.reverseRecOn with
  | nil => cases kept
  | append_singleton items last ih =>
      have standing (member : item ∈ firstBy key items) : ∃ earlier later,
          items ++ [last] = earlier ++ item :: later ∧ ∀ other ∈ earlier, key other ≠ key item := by
        obtain ⟨earlier, later, split, before⟩ := ih member
        exact ⟨earlier, later ++ [last], by rw [split, List.append_assoc, List.cons_append], before⟩
      by_cases known : key last ∈ (firstBy key items).map key
      · rw [firstBy_concat_of_mem known] at kept
        exact standing kept
      · rw [firstBy_concat_of_not_mem known] at kept
        rcases List.mem_append.1 kept with member | new
        · exact standing member
        · cases List.mem_singleton.1 new
          refine ⟨items, [], rfl, fun other member same => known ?_⟩
          exact mem_map_firstBy.2 (same ▸ List.mem_map_of_mem member)

/-- Items whose keys have all been met are not kept. -/
theorem firstBy_append_of_subset {key : α → κ} {items more : List α}
    (known : more.map key ⊆ items.map key) : firstBy key (items ++ more) = firstBy key items := by
  induction more using List.reverseRecOn with
  | nil => rw [List.append_nil]
  | append_singleton more item ih =>
      rw [List.map_append] at known
      have earlier := ih (List.Subset.trans (List.subset_append_left _ _) known)
      have met : key item ∈ (firstBy key (items ++ more)).map key := by
        rw [earlier]
        exact mem_map_firstBy.2 (known (List.mem_append_right _ List.mem_cons_self))
      rw [← List.append_assoc, firstBy_concat_of_mem met, earlier]

omit [LawfulBEq κ] [BEq κ] in
theorem eraseDups_append_of_subset [BEq α] [LawfulBEq α] {items more : List α}
    (known : more ⊆ items) : (items ++ more).eraseDups = items.eraseDups := by
  have covered : more.removeAll items = [] := by
    refine List.filter_eq_nil_iff.2 fun item member => ?_
    simpa using known member
  rw [List.eraseDups_append, covered, List.eraseDups_nil, List.append_nil]

omit [LawfulBEq κ] [BEq κ] in
theorem nodup_eraseDups [DecidableEq α] (items : List α) : items.eraseDups.Nodup := by
  induction items using List.reverseRecOn with
  | nil => exact List.nodup_nil
  | append_singleton items item ih =>
      rw [eraseDups_concat]
      exact nodup_appendNew ih item

omit [LawfulBEq κ] [BEq κ] in
/-- First occurrences of the same items, however often and in whatever order these are given. -/
theorem eraseDups_perm [DecidableEq α] {first second : List α}
    (same : ∀ item, item ∈ first ↔ item ∈ second) : first.eraseDups.Perm second.eraseDups := by
  rw [List.perm_ext_iff_of_nodup (nodup_eraseDups first) (nodup_eraseDups second)]
  intro item
  rw [List.mem_eraseDups, List.mem_eraseDups, same]

end DebugSymbols.Table
