import ByteScan.Scan.Context
import Mathlib.Algebra.BigOperators.Group.Finset.Basic

/-!
# Match lists

What is said of an action on the state of a scan is what it leaves where it succeeds, and when it
cannot fail. `Context.addMatch_ends` says both of recording a match.
-/

namespace ByteScan

/-- An action succeeds with a good state, or it fails; `spared` is when it cannot fail. -/
def Ends (spared : Prop) (good : α → Context → Prop) : EStateM.Result Error Context α → Prop
  | .ok value context => good value context
  | .error _ _ => ¬spared

theorem Ends.bind {spared : Prop} {middle : α → Context → Prop} {good : β → Context → Prop}
    {action : ScanM α} {next : α → ScanM β} {context : Context}
    (first : Ends spared middle (action context))
    (second : ∀ value after, middle value after → Ends spared good (next value after)) :
    Ends spared good ((action >>= next) context) := by
  change Ends spared good (EStateM.bind action next context)
  rw [EStateM.bind]
  cases ended : action context with
  | ok value after =>
      rw [ended] at first
      exact second value after first
  | error error after =>
      rw [ended] at first
      exact first

theorem Ends.pure {spared : Prop} {good : α → Context → Prop} {value : α} {context : Context}
    (holds : good value context) :
    Ends spared good ((Pure.pure value : ScanM α) context) := holds

theorem Ends.imp {spared : Prop} {first second : α → Context → Prop}
    {result : EStateM.Result Error Context α} (ends : Ends spared first result)
    (implies : ∀ value context, first value context → second value context) :
    Ends spared second result := by
  cases result with
  | ok value context => exact implies value context ends
  | error error context => exact ends

theorem Ends.spare {first second : Prop} {good : α → Context → Prop}
    {result : EStateM.Result Error Context α} (ends : Ends first good result)
    (implies : second → first) : Ends second good result := by
  cases result with
  | ok value context => exact ends
  | error error context => exact mt implies ends

theorem Ends.of_ok {spared : Prop} {good : α → Context → Prop}
    {result : EStateM.Result Error Context α} (ends : Ends spared good result) {value : α}
    {context : Context} (same : result = .ok value context) : good value context := by
  rw [same] at ends
  exact ends

theorem Ends.ok {spared : Prop} {good : α → Context → Prop}
    {result : EStateM.Result Error Context α} (ends : Ends spared good result) (allowed : spared) :
    ∃ value context, result = .ok value context ∧ good value context := by
  cases result with
  | ok value context => exact ⟨value, context, rfl, ends⟩
  | error error context => exact absurd allowed ends

/-- An action succeeds with a good state, or it fails with an error and a state that are bad. -/
def Outcome (good : α → Context → Prop) (bad : Error → Context → Prop) :
    EStateM.Result Error Context α → Prop
  | .ok value context => good value context
  | .error error context => bad error context

theorem Outcome.bind {middle : α → Context → Prop} {good : β → Context → Prop}
    {bad : Error → Context → Prop} {action : ScanM α} {next : α → ScanM β} {context : Context}
    (first : Outcome middle bad (action context))
    (second : ∀ value after, middle value after → Outcome good bad (next value after)) :
    Outcome good bad ((action >>= next) context) := by
  change Outcome good bad (EStateM.bind action next context)
  rw [EStateM.bind]
  cases ended : action context with
  | ok value after =>
      rw [ended] at first
      exact second value after first
  | error error after =>
      rw [ended] at first
      exact first

theorem Outcome.imp {first second : α → Context → Prop} {bad worse : Error → Context → Prop}
    {result : EStateM.Result Error Context α} (outcome : Outcome first bad result)
    (onSuccess : ∀ value context, first value context → second value context)
    (onFailure : ∀ error context, bad error context → worse error context) :
    Outcome second worse result := by
  cases result with
  | ok value context => exact onSuccess value context outcome
  | error error context => exact onFailure error context outcome

/-- Two actions succeed with the same value, or they fail with the same error. -/
def Paired (good : Context → Context → Prop) (bad : Context → Context → Prop) :
    EStateM.Result Error Context α → EStateM.Result Error Context α → Prop
  | .ok value first, .ok other second => value = other ∧ good first second
  | .error error first, .error other second => error = other ∧ bad first second
  | _, _ => False

theorem Paired.bind {middle good bad : Context → Context → Prop} {action other : ScanM α}
    {next following : α → ScanM β} {first second : Context}
    (begun : Paired middle bad (action first) (other second))
    (continued : ∀ value first second, middle first second →
      Paired good bad (next value first) (following value second)) :
    Paired good bad ((action >>= next) first) ((other >>= following) second) := by
  change Paired good bad (EStateM.bind action next first) (EStateM.bind other following second)
  rw [EStateM.bind, EStateM.bind]
  cases endedFirst : action first <;> cases endedSecond : other second <;>
    rw [endedFirst, endedSecond] at begun
  case ok.ok value after _ after' =>
    obtain ⟨rfl, holds⟩ := begun
    exact continued value after after' holds
  case ok.error => exact False.elim begun
  case error.ok => exact False.elim begun
  case error.error => exact begun

theorem Paired.both {good bad : Context → Context → Prop} {left right : Context → Prop}
    {leftBad rightBad : Error → Context → Prop} {first second : EStateM.Result Error Context α}
    (paired : Paired good bad first second) (onLeft : Outcome (fun _ => left) leftBad first)
    (onRight : Outcome (fun _ => right) rightBad second) :
    Paired (fun first second => good first second ∧ left first ∧ right second) bad first second := by
  cases first <;> cases second
  case ok.ok => exact ⟨paired.1, paired.2, onLeft, onRight⟩
  case ok.error => exact False.elim paired
  case error.ok => exact False.elim paired
  case error.error => exact paired

theorem Paired.imp {good better bad worse : Context → Context → Prop}
    {first second : EStateM.Result Error Context α} (paired : Paired good bad first second)
    (onSuccess : ∀ first second, good first second → better first second)
    (onFailure : ∀ first second, bad first second → worse first second) :
    Paired better worse first second := by
  cases first <;> cases second
  case ok.ok => exact ⟨paired.1, onSuccess _ _ paired.2⟩
  case ok.error => exact False.elim paired
  case error.ok => exact False.elim paired
  case error.error => exact ⟨paired.1, onFailure _ _ paired.2⟩

/-- Where an action succeeds, so does another, and their values and states go together. -/
def Leads (goes : α → β → Context → Context → Prop) (first : EStateM.Result Error Context α)
    (second : EStateM.Result Error Context β) : Prop :=
  ∀ value after, first = .ok value after →
    ∃ other after', second = .ok other after' ∧ goes value other after after'

theorem Leads.ok {goes : α → β → Context → Context → Prop} {value : α} {other : β}
    {first second : Context} (holds : goes value other first second) :
    Leads goes (.ok value first) (.ok other second) := by
  rintro _ _ ⟨⟩
  exact ⟨other, second, rfl, holds⟩

theorem Leads.error {goes : α → β → Context → Context → Prop} (error : Error) (context : Context)
    (second : EStateM.Result Error Context β) : Leads goes (.error error context) second := nofun

theorem Leads.bind {middle : α → β → Context → Context → Prop}
    {goes : γ → δ → Context → Context → Prop} {action : ScanM α} {other : ScanM β}
    {next : α → ScanM γ} {following : β → ScanM δ} {first second : Context}
    (begun : Leads middle (action first) (other second))
    (continued : ∀ value value' first second, middle value value' first second →
      Leads goes (next value first) (following value' second)) :
    Leads goes ((action >>= next) first) ((other >>= following) second) := by
  change Leads goes (EStateM.bind action next first) (EStateM.bind other following second)
  rw [EStateM.bind]
  cases ended : action first with
  | error error after => exact .error error after _
  | ok value after =>
      obtain ⟨value', after', same, goesOn⟩ := begun value after ended
      rw [EStateM.bind, same]
      exact continued value value' after after' goesOn

theorem Leads.imp {first second : α → β → Context → Context → Prop}
    {left : EStateM.Result Error Context α} {right : EStateM.Result Error Context β}
    (leads : Leads first left right)
    (implies : ∀ value other before after, first value other before after →
      second value other before after) : Leads second left right := by
  intro value after same
  obtain ⟨other, after', same', holds⟩ := leads value after same
  exact ⟨other, after', same', implies _ _ _ _ holds⟩

namespace Context

theorem length_matchesOf (context : Context) (string : Nat) :
    (context.matchesOf string).length = context.matchCount string :=
  Array.length_toList

theorem lastMatch?_eq (context : Context) (string : Nat) :
    context.lastMatch? string = (context.matchesOf string).getLast? := by
  rw [List.getLast?_eq_getElem?]
  exact Array.back?_eq_getElem?.trans Array.getElem?_toList.symm

theorem matchesOf_append_same (context : Context) {string : Nat} (found : Match)
    (known : string < context.lists.size) :
    (context.append string found).matchesOf string = context.matchesOf string ++ [found] := by
  simp only [matchesOf, append, Array.getD_eq_getD_getElem?, Array.getElem?_modify, if_true,
    Array.getElem?_eq_getElem known, Option.map_some, Option.getD_some, Arena.toList,
    Array.toList_push]

theorem matchesOf_append_other (context : Context) {string other : Nat} (found : Match)
    (different : string ≠ other) :
    (context.append string found).matchesOf other = context.matchesOf other := by
  simp only [matchesOf, append, Array.getD_eq_getD_getElem?, Array.getElem?_modify,
    if_neg different]

structure Appended (before : Context) (string : Nat) (found : Match) (after : Context) : Prop where
  flags : after.flags = before.flags
  timeout : after.timeout = before.timeout
  size_lists : after.lists.size = before.lists.size
  same : after.matchesOf string = before.matchesOf string ++ [found]
  other : ∀ other, string ≠ other → after.matchesOf other = before.matchesOf other
  recorded : after.recorded = before.recorded
  total : after.total = before.total + 1

theorem appended_append (context : Context) {string : Nat} (found : Match)
    (known : string < context.lists.size) :
    Appended context string found (context.append string found) where
  flags := rfl
  timeout := rfl
  size_lists := Array.size_modify
  same := matchesOf_append_same context found known
  other := fun _ => matchesOf_append_other context found
  recorded := rfl
  total := rfl

theorem addMatch_outcome (context : Context) {string : Nat} (found : Match)
    (known : string < context.lists.size) :
    Outcome (fun _ => Appended context string found)
      (fun error after => error = .insufficientMemory ∧ after = context)
      (addMatch string found context) := by
  have appended := appended_append context found known
  rw [addMatch]
  split
  · split
    · exact { appended with }
    · exact appended
  · exact ⟨rfl, rfl⟩

theorem addMatch_ends (context : Context) {string : Nat} (found : Match)
    (known : string < context.lists.size) :
    Ends (context.matchCount string < matchLimit ∧ context.total < Arena.capacity)
      (fun _ => Appended context string found) (addMatch string found context) := by
  rw [addMatch]
  split
  · have appended := appended_append context found known
    split
    · exact ⟨appended.flags, appended.timeout, appended.size_lists, appended.same,
        appended.other, appended.recorded, appended.total⟩
    · exact appended
  · rename_i full
    intro room
    refine full ?_
    rw [hasRoom, Bool.and_eq_true, decide_eq_true_eq, decide_eq_true_eq]
    exact room

end Context

end ByteScan
