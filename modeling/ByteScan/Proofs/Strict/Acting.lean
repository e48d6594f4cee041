import ByteScan.Proofs.Scan.Matches

/-!
# Actions of a scan that may have no result

The strict form of an action on the state of a scan has no result where a step of it would reach beyond
what there is. `Safe` says of a strict action that it has a result from some state on, that this is
the result of the other action, and that a failure is one of those that a scan may end with.
-/

namespace ByteScan

/-- A scan may end with this error. Data that cannot be reached is none of them. -/
def Error.IsOfScan : Error → Prop
  | .tooManyScans | .invalidArgument (.boundTwice _) | .insufficientMemory | .corrupt _ | .timeout
  | .callback => True
  | _ => False

namespace Strict

/-- An action on the state of a scan that may have no result. -/
def Acting (α : Type) := Context → Option (EStateM.Result Error Context α)

instance : Monad Acting where
  pure value := fun context => some (.ok value context)
  bind action next := fun context =>
    match action context with
    | none => none
    | some (.ok value after) => next value after
    | some (.error error after) => some (.error error after)

def act (action : ScanM α) : Acting α := fun context => some (action context)

def require (value : Option α) : Acting α := fun context => value.map fun value => .ok value context

theorem require_bind {found : Option α} {value : α} (same : found = some value)
    (next : α → Acting β) : require found >>= next = next value := by
  rw [same]
  rfl

/-- A strict action has a result, and it is that of the other action: it succeeds and what it leaves is
good, or it fails with an error that a scan may end with. -/
structure Safe (strict : Acting α) (plain : ScanM α) (good : α → Context → Prop)
    (context : Context) : Prop where
  same : strict context = some (plain context)
  outcome : Outcome good (fun error _ => error.IsOfScan) (plain context)

namespace Safe

variable {context : Context}

theorem bind {strict : Acting α} {plain : ScanM α} {middle : α → Context → Prop}
    {next : α → Acting β} {following : α → ScanM β} {good : β → Context → Prop}
    (first : Safe strict plain middle context)
    (second : ∀ value after, middle value after → Safe (next value) (following value) good after) :
    Safe (strict >>= next) (plain >>= following) good context where
  same := by
    change (match strict context with
      | none => none
      | some (.ok value after) => next value after
      | some (.error error after) => some (.error error after)) =
        some (EStateM.bind plain following context)
    rw [first.same, EStateM.bind]
    cases ended : plain context with
    | ok value after =>
        have outcome := first.outcome
        rw [ended] at outcome
        exact (second value after outcome).same
    | error error after => rfl
  outcome := first.outcome.bind fun value after holds => (second value after holds).outcome

variable {good : α → Context → Prop}

theorem pure {value : α} (holds : good value context) :
    Safe (Pure.pure value) (Pure.pure value) good context := ⟨rfl, holds⟩

theorem act {plain : ScanM α}
    (outcome : Outcome good (fun error _ => error.IsOfScan) (plain context)) :
    Safe (Strict.act plain) plain good context := ⟨rfl, outcome⟩

theorem ite {condition : Prop} [Decidable condition] {yes no : Acting α}
    {plainYes plainNo : ScanM α} (holds : condition → Safe yes plainYes good context)
    (fails : ¬condition → Safe no plainNo good context) :
    Safe (if condition then yes else no) (if condition then plainYes else plainNo) good context := by
  split
  · exact holds ‹_›
  · exact fails ‹_›

end Safe

end Strict

end ByteScan
