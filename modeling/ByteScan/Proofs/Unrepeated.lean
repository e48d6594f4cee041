import Mathlib.Data.List.Induction

/-!
# Lists without what is repeated

`List.eraseDups` keeps the first of equal items, so the items of a list stand in the order of their
first use.
-/

namespace ByteScan

variable {α : Type} [DecidableEq α]

theorem eraseDups_concat (items : List α) (item : α) :
    (items ++ [item]).eraseDups =
      if item ∈ items then items.eraseDups else items.eraseDups ++ [item] := by
  rw [List.eraseDups_append, List.cons_removeAll, List.contains_eq_mem]
  by_cases member : item ∈ items
  · simp only [member, decide_true, Bool.true_eq_false, if_false, if_true, List.nil_removeAll]
    exact List.append_nil _
  · simp only [member, decide_false, if_true, if_false, List.nil_removeAll]
    rfl

theorem eraseDups_pairwise {relation : α → α → Prop} {items : List α}
    (ordered : items.Pairwise fun first second => first ≠ second → relation first second) :
    items.eraseDups.Pairwise relation := by
  induction items using List.reverseRecOn with
  | nil => exact List.Pairwise.nil
  | append_singleton items item ih =>
      obtain ⟨before, _, between⟩ := List.pairwise_append.mp ordered
      rw [eraseDups_concat]
      split
      · exact ih before
      · rename_i absent
        refine List.pairwise_append.mpr ⟨ih before, List.pairwise_singleton .., ?_⟩
        intro first inFirst second isItem
        have listed := List.mem_eraseDups.mp inFirst
        rw [List.mem_singleton.mp isItem]
        exact between first listed item (List.mem_singleton_self _) (fun same => absent (same ▸ listed))

theorem eraseDups_nodup (items : List α) : items.eraseDups.Nodup :=
  eraseDups_pairwise (List.pairwise_of_forall fun _ _ different => different)

end ByteScan
