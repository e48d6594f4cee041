/-!
# Items of arrays

An array is read with a blank for what lies beyond its end. A blank array has blanks everywhere, and two
arrays of one size are the same if they are read the same.
-/

namespace ByteScan

variable {items others : Array α} {blank item : α} {number place : Nat}

theorem getD_replicate (blank : α) (size place : Nat) :
    (Array.replicate size blank).getD place blank = blank := by
  rw [Array.getD_eq_getD_getElem?, Array.getElem?_replicate]
  split <;> rfl

theorem getD_of_lt (inside : place < items.size) (blank : α) :
    items.getD place blank = items[place] := by
  rw [Array.getD_eq_getD_getElem?, Array.getElem?_eq_getElem inside, Option.getD_some]

theorem ext_getD (blank : α) (same : items.size = others.size)
    (alike : ∀ place < items.size, items.getD place blank = others.getD place blank) :
    items = others := by
  refine Array.ext same fun place inside inside' => ?_
  rw [← getD_of_lt inside blank, ← getD_of_lt inside' blank, alike place inside]

theorem eq_replicate_of_getD (all : ∀ place, items.getD place blank = blank) :
    items = Array.replicate items.size blank := by
  refine ext_getD blank Array.size_replicate.symm fun place _ => ?_
  rw [all, getD_replicate]

theorem getD_setIfInBounds_self (inside : number < items.size) :
    (items.setIfInBounds number item).getD number blank = item := by
  rw [Array.getD_eq_getD_getElem?, Array.getElem?_setIfInBounds_self_of_lt inside, Option.getD_some]

theorem getD_setIfInBounds_ne (isOther : number ≠ place) :
    (items.setIfInBounds number item).getD place blank = items.getD place blank := by
  rw [Array.getD_eq_getD_getElem?, Array.getElem?_setIfInBounds_ne isOther,
    Array.getD_eq_getD_getElem?]

theorem modify_eq_setIfInBounds (change : α → α) (blank : α) :
    items.modify number change = items.setIfInBounds number (change (items.getD number blank)) := by
  refine Array.ext (by rw [Array.size_modify, Array.size_setIfInBounds]) fun place inside _ => ?_
  rw [Array.getElem_modify, Array.getElem_setIfInBounds]
  split
  · rename_i same
    subst same
    rw [Array.size_modify] at inside
    rw [getD_of_lt inside]
  · rfl

end ByteScan
