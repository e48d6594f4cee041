/-!
# Results that may be missing

The strict form of a function has no result where it would take more than there is, use an index that
is out of range or compute a number that does not fit. `Ran` says that a strict function has a result,
that this is the result of the other function, and what is known of it.
-/

namespace ByteScan.Strict

/-- A value that has to be there. -/
def demand (value : Option α) : ExceptT ε Option α := value.map .ok

theorem demand_bind {found : Option α} {value : α} (same : found = some value)
    (next : α → ExceptT ε Option β) : demand found >>= next = next value := by
  rw [same]
  rfl

/-- What has a result goes on as it does where nothing can be missing. -/
theorem bind_strict {strict : ExceptT ε Option α} {plain : Except ε α} (same : strict = some plain)
    {next : α → ExceptT ε Option β} {following : α → Except ε β}
    (later : ∀ value, plain = .ok value → next value = some (following value)) :
    strict >>= next = some (plain >>= following) := by
  rw [same]
  cases plain with
  | ok value => exact later value rfl
  | error error => rfl

/-- A strict function has a result, and it is that of the other function. A value is good, and an error
is one of those that are allowed. -/
def Ran (allowed : ε → Prop) (strict : ExceptT ε Option α) (plain : Except ε α)
    (good : α → Prop) : Prop :=
  strict = some plain ∧
    match plain with
    | .ok value => good value
    | .error error => allowed error

variable {allowed : ε → Prop}

theorem Ran.imp {good better : α → Prop} {strict : ExceptT ε Option α} {plain : Except ε α}
    (ran : Ran allowed strict plain good) (implies : ∀ value, good value → better value) :
    Ran allowed strict plain better := by
  refine ⟨ran.1, ?_⟩
  have outcome := ran.2
  cases plain with
  | ok value => exact implies value outcome
  | error error => exact outcome

theorem Ran.bind {middle : α → Prop} {good : β → Prop} {strict : ExceptT ε Option α}
    {plain : Except ε α} {next : α → ExceptT ε Option β} {following : α → Except ε β}
    (first : Ran allowed strict plain middle)
    (second : ∀ value, middle value → Ran allowed (next value) (following value) good) :
    Ran allowed (strict >>= next) (plain >>= following) good := by
  obtain ⟨rfl, outcome⟩ := first
  cases plain with
  | ok value => exact second value outcome
  | error error => exact ⟨rfl, outcome⟩

/-! ## Strict readers -/

section

variable {good : α × σ → Prop} {state : σ}

theorem Ran.next {strict : StateT σ (ExceptT ε Option) α} {plain : Except ε (α × σ)}
    (first : Ran allowed (strict state) plain good) {next : α → StateT σ (ExceptT ε Option) β}
    {following : α × σ → Except ε (β × σ)} {last : β × σ → Prop}
    (second : ∀ value rest, good (value, rest) →
      Ran allowed (next value rest) (following (value, rest)) last) :
    Ran allowed ((strict >>= next) state) (plain >>= following) last :=
  first.bind fun value => second value.1 value.2

theorem Ran.pure {value : α} (holds : good (value, state)) :
    Ran allowed ((Pure.pure value : StateT σ (ExceptT ε Option) α) state) (.ok (value, state))
      good := ⟨rfl, holds⟩

theorem Ran.ite {condition : Prop} [Decidable condition]
    {yes no : StateT σ (ExceptT ε Option) α} {plainYes plainNo : Except ε (α × σ)}
    (holds : condition → Ran allowed (yes state) plainYes good)
    (fails : ¬condition → Ran allowed (no state) plainNo good) :
    Ran allowed ((if condition then yes else no) state) (if condition then plainYes else plainNo)
      good := by
  split
  · exact holds ‹_›
  · exact fails ‹_›

end

end ByteScan.Strict
