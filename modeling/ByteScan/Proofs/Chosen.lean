import Mathlib.Data.List.Forall2
import Mathlib.Data.Option.Basic

/-!
# Partners of some items of a list

Where only some items of a list are of interest, another list may hold a partner for each of these and
nothing for the others. `Chosen` says so of two lists, and what does not look at the other items finds
the same in both.
-/

namespace ByteScan

/-- The second list holds, in the same order, a partner for each item of the first one that is not
omitted. -/
inductive Chosen (partner : α → β → Prop) (omitted : α → Prop) : List α → List β → Prop where
  | nil : Chosen partner omitted [] []
  | kept {item : α} {other : β} {items : List α} {others : List β} (isPartner : partner item other)
      (rest : Chosen partner omitted items others) :
      Chosen partner omitted (item :: items) (other :: others)
  | passed {item : α} {items : List α} {others : List β} (isOmitted : omitted item)
      (rest : Chosen partner omitted items others) :
      Chosen partner omitted (item :: items) others

namespace Chosen

variable {partner better : α → β → Prop} {omitted left : α → Prop} {items more : List α}
  {others further : List β}

theorem append (first : Chosen partner omitted items others)
    (second : Chosen partner omitted more further) :
    Chosen partner omitted (items ++ more) (others ++ further) := by
  induction first with
  | nil => exact second
  | kept isPartner _ ih => exact .kept isPartner ih
  | passed isOmitted _ ih => exact .passed isOmitted ih

theorem imp (chosen : Chosen partner omitted items others)
    (partners : ∀ item other, partner item other → better item other)
    (omits : ∀ item, omitted item → left item) : Chosen better left items others := by
  induction chosen with
  | nil => exact .nil
  | kept isPartner _ ih => exact .kept (partners _ _ isPartner) ih
  | passed isOmitted _ ih => exact .passed (omits _ isOmitted) ih

theorem mem_cases (chosen : Chosen partner omitted items others) {item : α} (member : item ∈ items) :
    (∃ other ∈ others, partner item other) ∨ omitted item := by
  induction chosen with
  | nil => cases member
  | kept isPartner _ ih =>
      rcases List.mem_cons.mp member with rfl | later
      · exact .inl ⟨_, List.mem_cons_self, isPartner⟩
      · exact (ih later).imp_left fun ⟨other, listed, same⟩ =>
          ⟨other, List.mem_cons_of_mem _ listed, same⟩
  | passed isOmitted _ ih =>
      rcases List.mem_cons.mp member with rfl | later
      · exact .inr isOmitted
      · exact ih later

theorem find? (chosen : Chosen partner omitted items others) {property : α → Bool}
    {counterpart : β → Bool}
    (same : ∀ item other, partner item other → property item = counterpart other)
    (fails : ∀ item, omitted item → property item = false) :
    Option.Rel partner (items.find? property) (others.find? counterpart) := by
  induction chosen with
  | nil => exact .none
  | @kept item other _ _ isPartner _ ih =>
      rw [List.find?_cons, List.find?_cons, ← same item other isPartner]
      cases property item with
      | true => exact .some isPartner
      | false => exact ih
  | @passed item _ _ isOmitted _ ih =>
      rw [List.find?_cons, fails item isOmitted]
      exact ih

/-- What partners have in common and omitted items lack is gathered from either list. -/
theorem filterMap_eq (chosen : Chosen partner omitted items others) {gather : α → Option γ}
    {counterpart : β → Option γ}
    (same : ∀ item other, partner item other → gather item = counterpart other)
    (lacks : ∀ item, omitted item → gather item = none) :
    items.filterMap gather = others.filterMap counterpart := by
  induction chosen with
  | nil => rfl
  | @kept item other _ _ isPartner _ ih =>
      rw [List.filterMap_cons, List.filterMap_cons, same item other isPartner, ih]
  | @passed item _ _ isOmitted _ ih =>
      rw [List.filterMap_cons, lacks item isOmitted]
      exact ih

theorem of_map_eq {gives : α → Option γ} {shows : β → γ}
    (same : others.map shows = items.filterMap gives) :
    Chosen (fun item other => gives item = some (shows other)) (fun item => gives item = none)
      items others := by
  induction items generalizing others with
  | nil =>
      rw [List.filterMap_nil, List.map_eq_nil_iff] at same
      rw [same]
      exact .nil
  | cons item items ih =>
      rw [List.filterMap_cons] at same
      cases given : gives item with
      | none =>
          rw [given] at same
          exact .passed given (ih same)
      | some value =>
          rw [given] at same
          obtain ⟨other, others, rfl, rfl, rest⟩ := List.map_eq_cons_iff.mp same
          exact .kept given (ih rest)

end Chosen

end ByteScan
