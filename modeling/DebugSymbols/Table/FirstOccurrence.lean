/-!
# Lists of first occurrences

`appendNew` puts an item behind a list unless it stands there already.  Added
one by one, the items of a run are kept once each, in order of first use, and
the place of an item never changes.
-/

namespace DebugSymbols.Table

variable {α : Type} [DecidableEq α]

/-- Puts an item behind the list unless the list has it. -/
def appendNew (items : List α) (item : α) : List α :=
  if item ∈ items then items else items ++ [item]

theorem appendNew_of_mem {items : List α} {item : α} (known : item ∈ items) :
    appendNew items item = items :=
  if_pos known

theorem appendNew_of_not_mem {items : List α} {item : α} (fresh : item ∉ items) :
    appendNew items item = items ++ [item] :=
  if_neg fresh

theorem mem_appendNew {items : List α} {item other : α} :
    other ∈ appendNew items item ↔ other ∈ items ∨ other = item := by
  by_cases known : item ∈ items
  · rw [appendNew_of_mem known]
    exact ⟨Or.inl, fun either => either.elim id fun same => same ▸ known⟩
  · simp [appendNew_of_not_mem known]

theorem nodup_appendNew {items : List α} (once : items.Nodup) (item : α) :
    (appendNew items item).Nodup := by
  by_cases known : item ∈ items
  · rwa [appendNew_of_mem known]
  · rw [appendNew_of_not_mem known, List.nodup_append]
    refine ⟨once, by simp, fun earlier member last equal => ?_⟩
    rw [List.mem_singleton] at equal
    exact fun same => known (equal ▸ same ▸ member)

theorem isPrefix_appendNew (items : List α) (item : α) : items <+: appendNew items item := by
  unfold appendNew
  split
  · exact List.prefix_rfl
  · exact List.prefix_append _ _

theorem isPrefix_foldl_appendNew (items more : List α) : items <+: more.foldl appendNew items := by
  induction more generalizing items with
  | nil => exact List.prefix_rfl
  | cons item rest ih => exact (isPrefix_appendNew items item).trans (ih (appendNew items item))

theorem appendNew_cons_of_ne {items : List α} {first item : α} (other : item ≠ first) :
    appendNew (first :: items) item = first :: appendNew items item := by
  by_cases known : item ∈ items
  · rw [appendNew_of_mem known, appendNew_of_mem (List.mem_cons_of_mem first known)]
  · have fresh : item ∉ first :: items := List.not_mem_cons_of_ne_of_not_mem other known
    rw [appendNew_of_not_mem known, appendNew_of_not_mem fresh, List.cons_append]

/-- An item whose image is that of no other one may be added before or after mapping. -/
theorem appendNew_map {β : Type} [DecidableEq β] {image : α → β} {items : List α} {item : α}
    (injective : ∀ other ∈ items, image other = image item → other = item) :
    appendNew (items.map image) (image item) = (appendNew items item).map image := by
  by_cases known : item ∈ items
  · rw [appendNew_of_mem known, appendNew_of_mem (List.mem_map_of_mem known)]
  · have fresh : image item ∉ items.map image := by
      intro member
      obtain ⟨other, standing, same⟩ := List.mem_map.1 member
      exact known (injective other standing same ▸ standing)
    rw [appendNew_of_not_mem known, appendNew_of_not_mem fresh, List.map_append,
      List.map_singleton]

/-- The place at which an item stands once it has been added. -/
theorem getElem?_appendNew_idxOf (items : List α) (item : α) :
    (appendNew items item)[items.idxOf item]? = some item := by
  by_cases known : item ∈ items
  · rw [appendNew_of_mem known, List.getElem?_eq_getElem (List.idxOf_lt_length_of_mem known)]
    simp
  · rw [appendNew_of_not_mem known, List.idxOf_eq_length known]
    simp

/-- An item is added at the place where it was looked for. -/
theorem idxOf_appendNew (items : List α) (item : α) :
    (appendNew items item).idxOf item = items.idxOf item := by
  by_cases known : item ∈ items
  · rw [appendNew_of_mem known]
  · rw [appendNew_of_not_mem known, List.idxOf_append, if_neg known, List.idxOf_eq_length known,
      List.idxOf_cons_self, Nat.zero_add]

/-- What stands at a place stays there when another item is added. -/
theorem getElem?_appendNew {items : List α} {item found : α} {index : Nat}
    (standing : items[index]? = some found) : (appendNew items item)[index]? = some found := by
  by_cases known : item ∈ items
  · rwa [appendNew_of_mem known]
  · obtain ⟨within, _⟩ := List.getElem?_eq_some_iff.1 standing
    rw [appendNew_of_not_mem known, List.getElem?_append_left within, standing]

theorem eraseDups_concat [BEq α] [LawfulBEq α] (items : List α) (item : α) :
    (items ++ [item]).eraseDups = appendNew items.eraseDups item := by
  rw [List.eraseDups_append]
  by_cases known : item ∈ items
  · rw [appendNew_of_mem (List.mem_eraseDups.2 known)]
    simp [List.removeAll, known]
  · rw [appendNew_of_not_mem (fun member => known (List.mem_eraseDups.1 member))]
    simp [List.removeAll, List.eraseDups_cons, known]

theorem foldl_appendNew_eraseDups [BEq α] [LawfulBEq α] (items more : List α) :
    more.foldl appendNew items.eraseDups = (items ++ more).eraseDups := by
  induction more generalizing items with
  | nil => rw [List.foldl_nil, List.append_nil]
  | cons item rest ih =>
      rw [List.foldl_cons, ← eraseDups_concat, ih, List.append_assoc, List.singleton_append]

/-- One more item at the end, if there is one. -/
theorem eraseDups_append_toList [BEq α] [LawfulBEq α] (items : List α) (item : Option α) :
    (items ++ item.toList).eraseDups = item.elim items.eraseDups (appendNew items.eraseDups) := by
  cases item with
  | none => rw [Option.toList_none, List.append_nil, Option.elim_none]
  | some item => rw [Option.toList_some, eraseDups_concat, Option.elim_some]

end DebugSymbols.Table
