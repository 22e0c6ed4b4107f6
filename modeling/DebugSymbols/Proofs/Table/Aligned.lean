import Mathlib.Data.List.Forall2
import Mathlib.Data.List.Induction
/-!
# Lists that agree but for some items

Two lists that have the same items of a kind, in the same order, differ only in
what stands between these.  They can be built up together, and what holds of
the items one by one is kept as they grow.
-/

namespace DebugSymbols.Table

variable {α : Type} {keep : α → Bool} {motive : List α → List α → Prop}

theorem filter_concat_of_kept {item : α} (kept : keep item = true) (items : List α) :
    (items ++ [item]).filter keep = items.filter keep ++ [item] := by
  rw [List.filter_append, List.filter_cons_of_pos kept, List.filter_nil]

theorem filter_concat_of_dropped {item : α} (dropped : keep item = false) (items : List α) :
    (items ++ [item]).filter keep = items.filter keep := by
  have refused : ¬keep item = true := ne_true_of_eq_false dropped
  rw [List.filter_append, List.filter_cons_of_neg refused, List.filter_nil, List.append_nil]

/-- Lists that agree in the items that are kept are built up together, one such item on both sides
or any other item on one side. -/
@[elab_as_elim]
theorem aligned_induction (nil : motive [] [])
    (both : ∀ first second item, first.filter keep = second.filter keep → keep item = true →
      motive first second → motive (first ++ [item]) (second ++ [item]))
    (left : ∀ first second item, keep item = false →
      motive first second → motive (first ++ [item]) second)
    (right : ∀ first second item, keep item = false →
      motive first second → motive first (second ++ [item]))
    {first second : List α} (same : first.filter keep = second.filter keep) :
    motive first second := by
  -- The last item that is kept has its counterpart behind all others that are kept, so whatever
  -- stands behind either of the two is taken off first.
  induction first using List.reverseRecOn generalizing second with
  | nil =>
      induction second using List.reverseRecOn with
      | nil => exact nil
      | append_singleton second item ih =>
          cases kept : keep item with
          | false =>
              rw [filter_concat_of_dropped kept] at same
              exact right [] second item kept (ih same)
          | true =>
              rw [filter_concat_of_kept kept] at same
              exact absurd same.symm (by simp)
  | append_singleton first item ihFirst =>
      cases kept : keep item with
      | false =>
          rw [filter_concat_of_dropped kept] at same
          exact left first second item kept (ihFirst same)
      | true =>
          rw [filter_concat_of_kept kept] at same
          induction second using List.reverseRecOn with
          | nil => exact absurd same (by simp)
          | append_singleton second other ihSecond =>
              cases keptOther : keep other with
              | false =>
                  rw [filter_concat_of_dropped keptOther] at same
                  exact right _ second other keptOther (ihSecond same)
              | true =>
                  rw [filter_concat_of_kept keptOther] at same
                  obtain ⟨before, rfl⟩ := List.append_singleton_inj.1 same
                  exact both first second item before kept (ihFirst before)

theorem forall₂_concat {β : Type} {relation : α → β → Prop} {first : List α} {second : List β}
    {item : α} {other : β} :
    List.Forall₂ relation (first ++ [item]) (second ++ [other]) ↔
      List.Forall₂ relation first second ∧ relation item other := by
  rw [← List.forall₂_reverse_iff, List.reverse_append, List.reverse_append]
  exact List.forall₂_cons.trans (and_comm.trans (and_congr_left' List.forall₂_reverse_iff))

end DebugSymbols.Table
