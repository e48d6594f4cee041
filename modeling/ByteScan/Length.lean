/-!
# Bounds on lengths

Whether enough is left to be read is decided without going through everything that is left.
-/

namespace ByteScan

/-- A list has at least a number of items; no more of it is looked at than needed. -/
def hasAtLeast : Nat → List α → Bool
  | 0, _ => true
  | _ + 1, [] => false
  | count + 1, _ :: rest => hasAtLeast count rest

theorem hasAtLeast_iff (count : Nat) (items : List α) :
    hasAtLeast count items = true ↔ count ≤ items.length := by
  induction count generalizing items with
  | zero => simp [hasAtLeast]
  | succ count ih =>
    cases items with
    | nil => simp [hasAtLeast]
    | cons item rest => simp [hasAtLeast, ih]

end ByteScan
