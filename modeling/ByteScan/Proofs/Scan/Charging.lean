import ByteScan.Proofs.Items
import ByteScan.Scan.Counters
import Mathlib.Algebra.BigOperators.Group.Finset.Piecewise
import Mathlib.Algebra.BigOperators.Group.List.Basic
import Mathlib.Algebra.Order.BigOperators.Group.List
import Mathlib.Algebra.Order.Ring.Nat
import Mathlib.Logic.Relation

/-!
# Charging counters

Scans that end at the same time charge the same counters. A `Recorder` adds a charge by looking at the
counter and exchanging what it has seen for the sum. If the counter shows something else by then, it
looks again. However the steps of some recorders are mixed, no charge is lost and none is added twice:
`Recording.through_exact`.
-/

namespace ByteScan

inductive Counter where
  | rule (number : Nat)
  | string (number : Nat)
  deriving DecidableEq

namespace Charge

def counter : Charge → Counter
  | .rule number _ => .rule number
  | .string number _ => .string number

def time : Charge → Nanoseconds
  | .rule _ time => time
  | .string _ time => time

/-- What a charge adds to a counter while there is room. -/
def share (charge : Charge) (counter : Counter) : Nat :=
  if charge.counter = counter then min charge.time Counters.limit else 0

end Charge

def Context.timeOf (context : Context) : Counter → Nanoseconds
  | .rule number => context.ruleTime number
  | .string number => context.stringTime number

namespace Counters

def Has (counters : Counters) : Counter → Prop
  | .rule number => number < counters.rules.size
  | .string number => number < counters.strings.size

def shown (counters : Counters) : Counter → Nat
  | .rule number => counters.ruleTime number
  | .string number => counters.stringTime number

def store (counters : Counters) (value : Nat) : Counter → Counters
  | .rule number => { counters with rules := counters.rules.setIfInBounds number value }
  | .string number => { counters with strings := counters.strings.setIfInBounds number value }

def sizes (counters : Counters) : Nat × Nat := (counters.rules.size, counters.strings.size)

def Within (counters : Counters) : Prop := ∀ counter, counters.shown counter ≤ limit

end Counters

/-- Some charges that are to be added, and what the counter of the first one has shown if it has been
looked at. -/
structure Recorder where
  pending : List Charge
  seen : Option Nat

/-- What a recorder does at a time. -/
inductive Recorder.Step : Counters × Recorder → Counters × Recorder → Prop
  /-- A charge of nothing is left out. -/
  | skip (nothing : charge.time = 0) :
      Step (counters, ⟨charge :: charges, none⟩) (counters, ⟨charges, none⟩)
  /-- A recorder looks at a counter, for the first time or once more. What it sees may be out of date,
  so that it can be any value. -/
  | look (something : charge.time ≠ 0) (value : Nat) :
      Step (counters, ⟨charge :: charges, last⟩) (counters, ⟨charge :: charges, some value⟩)
  /-- The counter still shows what was seen, and is set to the sum. -/
  | exchange (fresh : counters.shown charge.counter = value) :
      Step (counters, ⟨charge :: charges, some value⟩)
        (counters.store (Counters.increase charge.time value) charge.counter, ⟨charges, none⟩)

def Recorder.of (counters : Counters) (context : Context) : Recorder :=
  ⟨counters.chargesOf context, none⟩

structure Recording where
  counters : Counters
  recorders : List Recorder

namespace Recording

/-- Any of the recorders does something. -/
inductive Step : Recording → Recording → Prop
  | of (before after : List Recorder) (step : Recorder.Step (shared, recorder) (shared', recorder')) :
      Step ⟨shared, before ++ recorder :: after⟩ ⟨shared', before ++ recorder' :: after⟩

def start (counters : Counters) (contexts : List Context) : Recording :=
  ⟨counters, contexts.map (Recorder.of counters)⟩

def IsThrough (recording : Recording) : Prop :=
  ∀ recorder ∈ recording.recorders, recorder.pending = []

end Recording

/-! ## Counters -/

namespace Counters

variable {counters others : Counters} {counter other : Counter} {charge : Charge} {value : Nat}

theorem sizes_store : (counters.store value counter).sizes = counters.sizes := by
  cases counter with
  | rule number => rw [store, sizes, Array.size_setIfInBounds, sizes]
  | string number => rw [store, sizes, Array.size_setIfInBounds, sizes]

theorem has_iff_of_sizes (same : others.sizes = counters.sizes) :
    others.Has counter ↔ counters.Has counter := by
  obtain ⟨rules, strings⟩ := Prod.mk.inj same
  cases counter with
  | rule number => rw [Has, Has, rules]
  | string number => rw [Has, Has, strings]

theorem shown_store (has : counters.Has counter) :
    (counters.store value counter).shown counter = value := by
  cases counter with
  | rule number => exact getD_setIfInBounds_self has
  | string number => exact getD_setIfInBounds_self has

theorem shown_store_of_ne (isOther : counter ≠ other) :
    (counters.store value counter).shown other = counters.shown other := by
  cases counter with
  | rule number =>
      cases other with
      | rule place => exact getD_setIfInBounds_ne (mt (congrArg Counter.rule) isOther)
      | string place => rfl
  | string number =>
      cases other with
      | rule place => rfl
      | string place => exact getD_setIfInBounds_ne (mt (congrArg Counter.string) isOther)

theorem shown_of_not_has (hasNot : ¬counters.Has counter) : counters.shown counter = 0 := by
  cases counter with
  | rule number => exact dif_neg hasNot
  | string number => exact dif_neg hasNot

theorem ext_shown (same : others.sizes = counters.sizes)
    (shows : ∀ counter, counters.Has counter → others.shown counter = counters.shown counter) :
    others = counters := by
  obtain ⟨rules, strings⟩ := Prod.mk.inj same
  have sameRules := ext_getD 0 rules fun place inside => shows (.rule place) (inside.trans_eq rules)
  have sameStrings := ext_getD 0 strings fun place inside => shows (.string place) (inside.trans_eq strings)
  cases others
  exact congrArg₂ Counters.mk sameRules sameStrings

theorem apply_eq_store : counters.apply charge =
    counters.store (increase charge.time (counters.shown charge.counter)) charge.counter := by
  cases charge with
  | rule number time => exact congrArg (Counters.mk · _) (modify_eq_setIfInBounds _ 0)
  | string number time => exact congrArg (Counters.mk _) (modify_eq_setIfInBounds _ 0)

theorem increase_le (time : Nanoseconds) (value : Nat) : increase time value ≤ limit :=
  Nat.min_le_right ..

theorem Within.store (within : counters.Within) (fits : value ≤ limit) (counter : Counter) :
    (counters.store value counter).Within := by
  intro other
  by_cases same : counter = other
  · subst same
    by_cases has : counters.Has counter
    · rwa [shown_store has]
    · rw [shown_of_not_has (mt (has_iff_of_sizes sizes_store).mp has)]
      exact Nat.zero_le limit
  · rw [shown_store_of_ne same]
    exact within other

theorem store_shown : counters.store (counters.shown counter) counter = counters := by
  refine ext_shown sizes_store ?_
  intro other has
  by_cases same : counter = other
  · subst same
    exact shown_store has
  · exact shown_store_of_ne same

theorem apply_of_time_eq_zero (within : counters.Within) (nothing : charge.time = 0) :
    counters.apply charge = counters := by
  have same : increase 0 (counters.shown charge.counter) = counters.shown charge.counter :=
    Nat.min_eq_left (within charge.counter)
  rw [apply_eq_store, nothing, same, store_shown]

theorem sizes_apply : (counters.apply charge).sizes = counters.sizes := by
  rw [apply_eq_store, sizes_store]

theorem Within.apply (within : counters.Within) (charge : Charge) :
    (counters.apply charge).Within := by
  rw [apply_eq_store]
  exact within.store (increase_le ..) _

theorem sizes_record (context : Context) : (counters.record context).sizes = counters.sizes := by
  rw [record]
  induction counters.chargesOf context generalizing counters with
  | nil => rfl
  | cons charge charges ih => rw [List.foldl_cons, ih, sizes_apply]

theorem Within.record (within : counters.Within) (context : Context) :
    (counters.record context).Within := by
  rw [Counters.record]
  induction counters.chargesOf context generalizing counters with
  | nil => exact within
  | cons charge charges ih => exact ih (within.apply charge)

/-! ## Resetting -/

theorem sizes_reset : counters.reset.sizes = counters.sizes := by
  rw [reset, zero, sizes, Array.size_replicate, Array.size_replicate, sizes]

theorem shown_reset : counters.reset.shown counter = 0 := by
  cases counter with
  | rule number => exact getD_replicate ..
  | string number => exact getD_replicate ..

theorem within_reset : counters.reset.Within := by
  intro counter
  rw [shown_reset]
  exact Nat.zero_le limit

/-! ## What a scan charges -/

theorem sum_map_range {count place : Nat} (inside : place < count) (amount : Nat → Nat) :
    ((List.range count).map fun number => if number = place then amount number else 0).sum =
      amount place :=
  calc
    _ = ∑ number ∈ Finset.range count, if number = place then amount number else 0 := rfl
    _ = amount place := by rw [Finset.sum_ite_eq', if_pos (Finset.mem_range.mpr inside)]

/-- A scan charges each counter once. -/
theorem sum_share_chargesOf (has : counters.Has counter) (context : Context) :
    ((counters.chargesOf context).map fun charge => charge.share counter).sum =
      min (context.timeOf counter) limit := by
  rw [chargesOf, List.map_append, List.sum_append, List.map_map, List.map_map]
  simp only [Function.comp_def, Charge.share, Charge.counter, Charge.time]
  cases counter with
  | rule place =>
      simp only [Counter.rule.injEq, reduceCtorEq, if_false, List.map_const',
        List.sum_replicate_nat, Nat.mul_zero, Nat.add_zero]
      exact sum_map_range has fun number => min (context.ruleTime number) limit
  | string place =>
      simp only [Counter.string.injEq, reduceCtorEq, if_false, List.map_const',
        List.sum_replicate_nat, Nat.mul_zero, Nat.zero_add]
      exact sum_map_range has fun number => min (context.stringTime number) limit

end Counters

/-! ## What the steps of recorders preserve -/

def Recorder.due (recorder : Recorder) (counter : Counter) : Nat :=
  (recorder.pending.map fun charge => charge.share counter).sum

def Recording.total (recording : Recording) (counter : Counter) : Nat :=
  min (recording.counters.shown counter +
    (recording.recorders.map fun recorder => recorder.due counter).sum) Counters.limit

namespace Recorder.Step

variable {counters counters' : Counters} {recorder recorder' : Recorder} {counter : Counter}

theorem sizes (step : Step (counters, recorder) (counters', recorder')) :
    counters'.sizes = counters.sizes := by
  cases step with
  | skip nothing => rfl
  | look something value => rfl
  | exchange fresh => exact Counters.sizes_store

theorem within (step : Step (counters, recorder) (counters', recorder'))
    (within : counters.Within) : counters'.Within := by
  cases step with
  | skip nothing => exact within
  | look something value => exact within
  | exchange fresh => exact within.store (Counters.increase_le ..) _

/-- What a counter shows and what a recorder has to add to it make up the same amount after a step, but
for what is above the limit. -/
theorem total (step : Step (counters, recorder) (counters', recorder'))
    (has : counters.Has counter) (others : Nat) :
    min (counters'.shown counter + (recorder'.due counter + others)) Counters.limit =
      min (counters.shown counter + (recorder.due counter + others)) Counters.limit := by
  cases step with
  | @skip _ charge _ nothing =>
      have none : charge.share counter = 0 := by
        rw [Charge.share, nothing, Nat.zero_min, ite_self]
      rw [due, due, List.map_cons, List.sum_cons, none, Nat.zero_add]
  | look something value => rfl
  | @exchange _ _ charge _ fresh =>
      rw [due, due, List.map_cons, List.sum_cons, Charge.share]
      by_cases same : charge.counter = counter
      · subst same
        rw [Counters.shown_store has, if_pos rfl, fresh, Counters.increase]
        dsimp only
        omega
      · rw [Counters.shown_store_of_ne same, if_neg same, Nat.zero_add]

end Recorder.Step

namespace Recording

variable {before after : Recording} {counter : Counter}

theorem Step.sizes (step : Step before after) : after.counters.sizes = before.counters.sizes := by
  cases step with
  | of front rear step => exact step.sizes

theorem Step.within (step : Step before after) (within : before.counters.Within) :
    after.counters.Within := by
  cases step with
  | of front rear step => exact step.within within

theorem Step.total (step : Step before after) (has : before.counters.Has counter) :
    after.total counter = before.total counter := by
  cases step with
  | @of shared recorder shared' recorder' front rear step =>
      have same := step.total has ((front.map fun recorder => recorder.due counter).sum +
        (rear.map fun recorder => recorder.due counter).sum)
      simpa only [Recording.total, List.map_append, List.map_cons, List.sum_append, List.sum_cons,
        Nat.add_left_comm] using same

/-- However many steps are made, by whichever recorders, nothing is lost and nothing added twice. -/
theorem conserved (run : Relation.ReflTransGen Step before after) :
    after.counters.sizes = before.counters.sizes ∧
      (before.counters.Within → after.counters.Within) ∧
      ∀ counter, before.counters.Has counter → after.total counter = before.total counter := by
  induction run with
  | refl => exact ⟨rfl, id, fun _ _ => rfl⟩
  | tail _ step ih =>
      obtain ⟨sizes, within, total⟩ := ih
      refine ⟨step.sizes.trans sizes, fun start => step.within (within start), ?_⟩
      intro counter has
      exact (step.total ((Counters.has_iff_of_sizes sizes).mpr has)).trans (total counter has)

theorem total_start {counters : Counters} (has : counters.Has counter) (contexts : List Context) :
    (start counters contexts).total counter = min (counters.shown counter +
      (contexts.map fun context => min (context.timeOf counter) Counters.limit).sum)
      Counters.limit := by
  rw [total, start, List.map_map]
  simp only [Function.comp_def, Recorder.due, Recorder.of, Counters.sum_share_chargesOf has]

theorem total_of_isThrough (through : after.IsThrough) (within : after.counters.Within) :
    after.total counter = after.counters.shown counter := by
  have none : (after.recorders.map fun recorder => recorder.due counter).sum = 0 :=
    List.sum_eq_zero fun amount listed => by
      obtain ⟨recorder, isRecorder, rfl⟩ := List.mem_map.mp listed
      rw [Recorder.due, through recorder isRecorder]
      rfl
  rw [total, none, Nat.add_zero, Nat.min_eq_left (within counter)]

/-- What a counter shows after a reset and after some scans have been recorded. -/
theorem shown_of_isThrough {earlier : Counters} {contexts : List Context} {final : Recording}
    (run : Relation.ReflTransGen Step (start earlier.reset contexts) final)
    (through : final.IsThrough) (has : earlier.Has counter) :
    final.counters.shown counter =
      min (contexts.map fun context => min (context.timeOf counter) Counters.limit).sum
        Counters.limit := by
  obtain ⟨-, within, total⟩ := conserved run
  have has := (Counters.has_iff_of_sizes Counters.sizes_reset).mpr has
  rw [← total_of_isThrough through (within Counters.within_reset), total counter has,
    total_start has, Counters.shown_reset, Nat.zero_add]

/-! ## One scan after another -/

theorem run_pending {counters : Counters} (within : counters.Within) (charges : List Charge) :
    Relation.ReflTransGen Recorder.Step (counters, ⟨charges, none⟩)
      (charges.foldl Counters.apply counters, ⟨[], none⟩) := by
  induction charges generalizing counters with
  | nil => exact .refl
  | cons charge charges ih =>
      have rest := ih (within.apply charge)
      by_cases nothing : charge.time = 0
      · rw [Counters.apply_of_time_eq_zero within nothing] at rest
        rw [List.foldl_cons, Counters.apply_of_time_eq_zero within nothing]
        exact .head (.skip nothing) rest
      · rw [Counters.apply_eq_store] at rest
        rw [List.foldl_cons, Counters.apply_eq_store]
        exact .head (.look nothing (counters.shown charge.counter)) (.head (.exchange rfl) rest)

theorem recorder_congr {counters others : Counters} (same : others.sizes = counters.sizes) :
    Recorder.of others = Recorder.of counters := by
  obtain ⟨rules, strings⟩ := Prod.mk.inj same
  funext context
  rw [Recorder.of, Recorder.of, Counters.chargesOf, Counters.chargesOf, rules, strings]

/-- Recording one scan after another is one of the ways to mix the steps. -/
theorem run_record {counters : Counters} (within : counters.Within) (front : List Recorder)
    (contexts : List Context) :
    Relation.ReflTransGen Step ⟨counters, front ++ contexts.map (Recorder.of counters)⟩
      ⟨contexts.foldl Counters.record counters, front ++ contexts.map fun _ => ⟨[], none⟩⟩ := by
  induction contexts generalizing counters front with
  | nil => exact .refl
  | cons context contexts ih =>
      let place (state : Counters × Recorder) : Recording :=
        ⟨state.1, front ++ state.2 :: contexts.map (Recorder.of counters)⟩
      have alone := (run_pending within (counters.chargesOf context)).lift place
        fun _ _ step => Step.of front _ step
      have rest := ih (within.record context) (front ++ [⟨[], none⟩])
      rw [recorder_congr (Counters.sizes_record context), List.append_assoc, List.append_assoc] at rest
      exact alone.trans rest

theorem isThrough_of_map {counters : Counters} (contexts : List Context) :
    IsThrough ⟨counters, contexts.map fun _ => ⟨[], none⟩⟩ := by
  intro recorder listed
  obtain ⟨context, -, rfl⟩ := List.mem_map.mp listed
  rfl

end Recording

/-! ## Profiles -/

def RuleSet.charged (rules : RuleSet) (counters : Counters) : List RuleProfile :=
  rules.rules.toList.zipIdx.map fun (rule, number) =>
    ⟨rules.spaceOf rule, rule.identifier,
      counters.ruleTime number + (rule.strings.map counters.stringTime).sum⟩

namespace Nanoseconds

theorem min_add_of_min (first second limit : Nat) :
    min (min first limit + second) limit = min (first + second) limit := by
  omega

theorem foldl_add (times : List Nanoseconds) {before : Nanoseconds} (fits : before ≤ longest) :
    times.foldl add before = min (before + times.sum) longest := by
  induction times generalizing before with
  | nil => exact (Nat.min_eq_left fits).symm
  | cons time times ih =>
      rw [List.foldl_cons, add, ih (Nat.min_le_right ..), min_add_of_min, List.sum_cons,
        Nat.add_assoc]

end Nanoseconds

namespace RuleSet

variable {counters : Counters} (rules : RuleSet)

theorem profile_eq_map : rules.profile counters =
    (rules.charged counters).map fun entry =>
      { entry with time := min entry.time Nanoseconds.longest } := by
  rw [profile, charged, List.map_map]
  refine List.map_congr_left ?_
  rintro ⟨rule, number⟩ -
  dsimp only [Function.comp]
  rw [Nanoseconds.foldl_add _ (Nat.zero_le _), Nanoseconds.add, Nat.zero_add, Nat.add_comm,
    Nanoseconds.min_add_of_min, Nat.add_comm]

theorem charged_le (within : counters.Within) {rule : Rule}
    (few : rule.strings.length < Nanoseconds.perSecond) (number : Nat) :
    counters.ruleTime number + (rule.strings.map counters.stringTime).sum ≤ Nanoseconds.longest := by
  have each : ∀ time ∈ rule.strings.map counters.stringTime, time ≤ Counters.limit := by
    intro time listed
    obtain ⟨string, -, rfl⟩ := List.mem_map.mp listed
    exact within (.string string)
  have strings := List.sum_le_card_nsmul (M := Nat) _ _ each
  rw [List.length_map] at strings
  calc
    _ ≤ Counters.limit + rule.strings.length * Counters.limit :=
      Nat.add_le_add (within (.rule number)) strings
    _ = (rule.strings.length + 1) * Counters.limit := by rw [Nat.succ_mul, Nat.add_comm]
    _ ≤ Nanoseconds.perSecond * Counters.limit := Nat.mul_le_mul_right _ few
    _ = (UInt64.size - 1) * Nanoseconds.perSecond := Nat.mul_comm ..
    _ ≤ Nanoseconds.longest := Nat.le_add_right ..

/-- A profile shows all that is spent on each rule unless a rule has a billion strings. -/
theorem profile_eq_charged (within : counters.Within)
    (few : ∀ rule ∈ rules.rules, rule.strings.length < Nanoseconds.perSecond) :
    rules.profile counters = rules.charged counters := by
  rw [profile_eq_map, charged, List.map_map]
  refine List.map_congr_left ?_
  rintro ⟨rule, number⟩ listed
  have isRule : rule ∈ rules.rules := Array.mem_toList_iff.mp (List.fst_mem_of_mem_zipIdx listed)
  exact congrArg (RuleProfile.mk _ _) (Nat.min_eq_left (charged_le within (few rule isRule) number))

end RuleSet

/-! ## All scans -/

namespace Recording

/-- However the steps of recording some scans are mixed, in the end each counter shows the sum of their
times, as far as it goes. The same comes of recording the scans one after another in any order. A
profile shows for each rule its own counter and those of its strings, added up as far as durations
go. -/
theorem through_exact (earlier : Counters) (contexts : List Context) :
    (∃ final, Relation.ReflTransGen Step (start earlier.reset contexts) final ∧ final.IsThrough) ∧
    ∀ final, Relation.ReflTransGen Step (start earlier.reset contexts) final → final.IsThrough →
      (∀ counter, earlier.Has counter → final.counters.shown counter =
        min (contexts.map fun context => min (context.timeOf counter) Counters.limit).sum
          Counters.limit) ∧
      (∀ order : List Context, order.Perm contexts →
        final.counters = order.foldl Counters.record earlier.reset) ∧
      ∀ rules : RuleSet,
        (rules.profile final.counters = (rules.charged final.counters).map fun entry =>
          { entry with time := min entry.time Nanoseconds.longest }) ∧
        ((∀ rule ∈ rules.rules, rule.strings.length < Nanoseconds.perSecond) →
          rules.profile final.counters = rules.charged final.counters) := by
  refine ⟨⟨_, run_record Counters.within_reset [] contexts, isThrough_of_map contexts⟩, ?_⟩
  intro final run through
  refine ⟨fun counter has => shown_of_isThrough run through has, ?_, ?_⟩
  · intro order same
    have within : earlier.reset.Within := Counters.within_reset
    have ordered := run_record within [] order
    have sizes := (conserved ordered).1.trans Counters.sizes_reset
    refine Counters.ext_shown ?_ ?_
    · exact (conserved run).1.trans (conserved ordered).1.symm
    · intro counter has
      have has : earlier.Has counter := (Counters.has_iff_of_sizes sizes).mp has
      have alike := shown_of_isThrough ordered (isThrough_of_map order) has
      rw [shown_of_isThrough run through has, ← (same.map _).sum_eq, ← alike]
  · intro rules
    have within := (conserved run).2.1 Counters.within_reset
    exact ⟨rules.profile_eq_map, rules.profile_eq_charged within⟩

end Recording

end ByteScan
