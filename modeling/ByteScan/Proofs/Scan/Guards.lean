import ByteScan.Proofs.Scan.Blocks
import ByteScan.Proofs.Scan.Threads
import Mathlib.Data.List.Nodup
import Mathlib.Data.List.Perm.Basic

/-!
# Slots in use

A thread that takes a slot holds it until it frees it, and a scan that a listener starts takes its slot
while the scan around it keeps its own. The slots that a thread holds are therefore stacked. The steps
of a scan take one slot and free that one again, on every path (`frees_scan`). From this it follows
what the shared mask says at any moment, whichever threads take steps in which order
(`guarded_of_reachable`).
-/

namespace ByteScan

namespace Slots

theorem lt_count_of_isHeld {slots : Slots} {slot : Nat} (held : slots.isHeld slot = true) :
    slot < count :=
  BitVec.lt_of_getLsbD held

theorem isHeld_empty (slot : Nat) : empty.isHeld slot = false := BitVec.getLsbD_zero

theorem acquire?_eq_some_iff {slots after : Slots} {slot : Nat} :
    slots.acquire? = some (slot, after) ↔
      (slot < count ∧ slots.isHeld slot = false ∧ ∀ smaller < slot, slots.isHeld smaller = true) ∧
        after = ⟨slots.mask ||| BitVec.twoPow 32 slot⟩ := by
  have found := @List.find?_range_eq_some count slot fun slot => !slots.isHeld slot
  simp only [Bool.not_eq_true', Bool.not_not, List.mem_range] at found
  rw [acquire?]
  split
  · rename_i lowest isLowest
    constructor
    · intro acquired
      cases acquired
      obtain ⟨free, within, taken⟩ := found.mp isLowest
      exact ⟨⟨within, free, taken⟩, rfl⟩
    · rintro ⟨⟨within, free, taken⟩, rfl⟩
      cases isLowest.symm.trans (found.mpr ⟨free, within, taken⟩)
      rfl
  · rename_i none
    constructor
    · intro acquired
      cases acquired
    · rintro ⟨⟨within, free, taken⟩, -⟩
      cases none.symm.trans (found.mpr ⟨free, within, taken⟩)

theorem acquire?_eq_none_iff {slots : Slots} :
    slots.acquire? = none ↔ ∀ slot < count, slots.isHeld slot = true := by
  have none := @List.find?_eq_none Nat (fun slot => !slots.isHeld slot) (List.range count)
  simp only [List.mem_range, Bool.not_eq_true', Bool.not_eq_false] at none
  rw [← none, acquire?]
  split <;> simp_all

theorem isHeld_acquired {slots after : Slots} {slot : Nat}
    (acquired : slots.acquire? = some (slot, after)) (other : Nat) :
    after.isHeld other = true ↔ other = slot ∨ slots.isHeld other = true := by
  obtain ⟨⟨within, -, -⟩, rfl⟩ := acquire?_eq_some_iff.mp acquired
  have isWithin : slot < 32 := within
  simp only [isHeld, BitVec.getLsbD_or, BitVec.getLsbD_twoPow, Bool.or_eq_true, Bool.and_eq_true,
    decide_eq_true_eq, isWithin, true_and]
  rw [or_comm, eq_comm]

theorem isHeld_release (slots : Slots) (slot other : Nat) :
    (slots.release slot).isHeld other = true ↔ slots.isHeld other = true ∧ other ≠ slot := by
  have within : slots.mask.getLsbD other = true → other < 32 := BitVec.lt_of_getLsbD
  simp only [release, isHeld, BitVec.getLsbD_and, BitVec.getLsbD_not, BitVec.getLsbD_twoPow,
    Bool.and_eq_true, decide_eq_true_eq, Bool.not_eq_true', Bool.and_eq_false_iff,
    decide_eq_false_iff_not]
  grind

theorem ext_isHeld {slots others : Slots}
    (same : ∀ slot, slots.isHeld slot = true ↔ others.isHeld slot = true) : slots = others := by
  cases slots
  cases others
  congr 1
  refine BitVec.eq_of_getLsbD_eq fun slot _ => ?_
  exact Bool.eq_iff_iff.mpr (same slot)

theorem held_eq_length {slots : Slots} {guards : List Nat} (distinct : guards.Nodup)
    (bits : ∀ slot, slots.isHeld slot = true ↔ slot ∈ guards) : slots.held = guards.length := by
  have same : ((List.range count).filter slots.isHeld).Perm guards := by
    refine (List.perm_ext_iff_of_nodup (List.nodup_range.filter _) distinct).mpr fun slot => ?_
    rw [List.mem_filter, List.mem_range, bits]
    exact and_iff_right_of_imp fun guarded => lt_count_of_isHeld ((bits slot).mpr guarded)
  rw [held, List.countP_eq_length_filter, same.length_eq]

theorem acquire?_eq_none_iff_held {slots : Slots} :
    slots.acquire? = none ↔ slots.held = count := by
  have all := @List.countP_eq_length Nat (List.range count) slots.isHeld
  rw [List.length_range] at all
  rw [acquire?_eq_none_iff, held, all]
  simp only [List.mem_range]

end Slots

/-! ## Threads among threads -/

/-- A thread that has started, with the slots it holds, the newest first. -/
structure Thread (σ : Type) where
  guards : List Nat
  task : Task σ Reply

def Thread.step (shared : Activity × σ) (thread : Thread σ) :
    Option ((Activity × σ) × Thread σ) :=
  match thread.task with
  | .done _ => none
  | .work effect next =>
    some (({ shared.1 with counters := (effect shared).1 }, (effect shared).2),
      ⟨thread.guards, next shared⟩)
  | .acquire next =>
    match shared.1.slots.acquire? with
    | none => some (shared, ⟨thread.guards, next none⟩)
    | some (slot, slots) =>
      some (({ shared.1 with slots }, shared.2), ⟨slot :: thread.guards, next (some slot)⟩)
  | .release slot next =>
    some (({ shared.1 with slots := shared.1.slots.release slot }, shared.2),
      ⟨thread.guards.erase slot, next⟩)

structure System (σ : Type) where
  shared : Activity × σ
  threads : List (Thread σ)

namespace System

def slots (system : System σ) : Slots := system.shared.1.slots

def guards (system : System σ) : List Nat := system.threads.flatMap Thread.guards

/-- What can become of a rule set that nobody has scanned with: threads are started at any time, and
any of them takes the next step. -/
inductive Reachable (rules : RuleSet) : System σ → Prop
  | start (counters : Counters) (memory : σ) : Reachable rules ⟨(⟨.empty, counters⟩, memory), []⟩
  | spawn (program : Program σ) : Reachable rules ⟨state, others⟩ →
      Reachable rules ⟨state, ⟨[], program.task rules⟩ :: others⟩
  | step : Reachable rules ⟨state, before ++ thread :: after⟩ →
      thread.step state = some (following, stepped) →
      Reachable rules ⟨following, before ++ stepped :: after⟩

end System

/-! ## Slots are freed in the reverse order -/

/-- Some steps free these slots, the first one first, and all that they take in between. -/
inductive Frees : List Nat → Task σ α → Prop
  | done (value : α) : Frees [] (.done value)
  | work : (∀ shared, Frees guards (next shared)) → Frees guards (.work effect next)
  | acquire : Frees guards (next none) → (∀ slot, Frees (slot :: guards) (next (some slot))) →
      Frees guards (.acquire next)
  | release : Frees guards next → Frees (slot :: guards) (.release slot next)

theorem Frees.bind {task : Task σ α} {following : α → Task σ β} {first rest : List Nat}
    (frees : Frees first task) (later : ∀ value, Frees rest (following value)) :
    Frees (first ++ rest) (task.bind following) := by
  induction frees with
  | done value => exact later value
  | work _ ih => exact .work ih
  | acquire _ _ ihNone ihSome => exact .acquire ihNone ihSome
  | release _ ih => exact .release ih

/-- The slots that a thread still has to free are determined by the steps it has left. -/
theorem Frees.unique {task : Task σ α} {guards others : List Nat} (shared : Activity × σ)
    (frees : Frees guards task) (also : Frees others task) : guards = others := by
  induction frees generalizing others with
  | done value =>
      cases also
      rfl
  | work _ ih =>
      cases also with
      | work all => exact ih shared (all shared)
  | acquire _ _ ihNone _ =>
      cases also with
      | acquire refused _ => exact ihNone refused
  | release _ ih =>
      cases also with
      | release rest => rw [ih rest]

theorem frees_charge (charges : List Charge) : Frees [] (Task.charge (σ := σ) charges) := by
  induction charges with
  | nil => exact .done ()
  | cons charge charges ih => exact .work fun _ => ih

theorem frees_record (context : Context) : Frees [] (Task.record (σ := σ) context) := by
  rw [Task.record]
  split
  · exact .work fun _ => frees_charge _
  · exact .done ()

theorem frees_announce {listener : Message → Task σ Reply}
    (listening : ∀ message, Frees [] (listener message)) (messages : List Message) :
    Frees [] (Task.announce listener messages) := by
  induction messages with
  | nil => exact (listening _).bind fun _ => .done _
  | cons message messages ih =>
      refine (listening message).bind fun reply => ?_
      cases reply with
      | proceed => exact ih
      | abort => exact .done _
      | fail => exact .done _

theorem frees_report {listener : Message → Task σ Reply}
    (listening : ∀ message, Frees [] (listener message)) (rules : RuleSet) (blocks : List Block)
    (context : Context) : Frees [] (Task.report rules blocks context listener) := by
  rw [Task.report]
  split
  · exact .done _
  · exact (frees_record _).bind fun _ => frees_announce listening _

/-- A scan frees the slot that it takes, whatever its outcome. -/
theorem frees_scan {listener : Message → Task σ Reply}
    (listening : ∀ message, Frees [] (listener message)) (rules : RuleSet) (blocks : List Block)
    (flags : ScanFlags) (timeout : Nanoseconds) (clock : Clock) :
    Frees [] (Task.scan rules blocks flags timeout clock listener) := by
  cases blocks with
  | nil => exact .done _
  | cons first rest =>
      refine .acquire (.done _) fun slot => ?_
      exact (frees_report listening rules _ _).bind fun _ => .release (.done _)

theorem frees_task (rules : RuleSet) (program : Program σ) : Frees [] (program.task rules) := by
  induction program with
  | answer reply => exact .done reply
  | work effect next ih => exact .work ih
  | scan blocks flags timeout clock listener next ihListener ihNext =>
      exact (frees_scan ihListener rules blocks flags timeout clock).bind ihNext

/-- A step of a thread leaves it with steps that free what it then holds. The slots that something
later is to free stay below them. -/
theorem Frees.step_bind {shared next : Activity × σ} {task : Task σ α} {stepped : Thread σ}
    {following : α → Task σ Reply} {inner outer : List Nat} (frees : Frees inner task)
    (unfinished : ∀ value, task ≠ .done value)
    (stepping : Thread.step shared ⟨inner ++ outer, task.bind following⟩ = some (next, stepped)) :
    ∃ others rest, Frees others rest ∧ stepped = ⟨others ++ outer, rest.bind following⟩ := by
  cases frees with
  | done value => exact absurd rfl (unfinished value)
  | work all =>
      cases stepping
      exact ⟨_, _, all shared, rfl⟩
  | acquire refused granted =>
      simp only [Thread.step, Task.bind] at stepping
      split at stepping
      · cases stepping
        exact ⟨_, _, refused, rfl⟩
      · cases stepping
        exact ⟨_, _, granted _, rfl⟩
  | release rest =>
      cases stepping
      refine ⟨_, _, rest, ?_⟩
      rw [List.cons_append, List.erase_cons_head]

theorem Task.bind_done (task : Task σ α) : task.bind .done = task := by
  induction task with
  | done value => rfl
  | work effect next ih => exact congrArg (Task.work effect) (funext ih)
  | acquire next ih => exact congrArg Task.acquire (funext ih)
  | release slot next ih => exact congrArg (Task.release slot) ih

theorem Frees.step {shared next : Activity × σ} {thread stepped : Thread σ}
    (frees : Frees thread.guards thread.task)
    (stepping : thread.step shared = some (next, stepped)) :
    Frees stepped.guards stepped.task := by
  have unfinished : ∀ value, thread.task ≠ .done value := by
    intro value ended
    rw [Thread.step, ended] at stepping
    cases stepping
  have asBind : Thread.step shared ⟨thread.guards ++ [], thread.task.bind .done⟩ =
      some (next, stepped) := by
    rw [List.append_nil, Task.bind_done]
    exact stepping
  obtain ⟨others, rest, restFrees, rfl⟩ := frees.step_bind unfinished asBind
  rw [List.append_nil, Task.bind_done]
  exact restFrees

theorem Frees.step_cases {shared next : Activity × σ} {thread stepped : Thread σ}
    (frees : Frees thread.guards thread.task)
    (stepping : thread.step shared = some (next, stepped)) :
    (next.1.slots = shared.1.slots ∧ stepped.guards = thread.guards) ∨
    (∃ slot, shared.1.slots.acquire? = some (slot, next.1.slots) ∧
      stepped.guards = slot :: thread.guards) ∨
    ∃ slot, next.1.slots = shared.1.slots.release slot ∧ thread.guards = slot :: stepped.guards := by
  obtain ⟨guards, task⟩ := thread
  dsimp only at frees
  cases frees with
  | done value => cases stepping
  | work all =>
      cases stepping
      exact .inl ⟨rfl, rfl⟩
  | acquire refused granted =>
      simp only [Thread.step] at stepping
      split at stepping
      · cases stepping
        exact .inl ⟨rfl, rfl⟩
      · rename_i slot slots acquired
        cases stepping
        exact .inr (.inl ⟨slot, acquired, rfl⟩)
  | release rest =>
      cases stepping
      refine .inr (.inr ⟨_, rfl, ?_⟩)
      rw [List.erase_cons_head]

/-- What a thread can become, whatever other threads do between its steps. -/
inductive Thread.Later : Thread σ → Thread σ → Prop
  | refl (thread : Thread σ) : Later thread thread
  | step {first thread stepped : Thread σ} {shared next : Activity × σ} : Later first thread →
      thread.step shared = some (next, stepped) → Later first stepped

/-- A thread in the middle of something holds what this is to free above what it held before. Once it
is through, it holds that alone. -/
theorem Frees.later {task : Task σ α} {following : α → Task σ Reply} {inner outer : List Nat}
    {thread : Thread σ} (frees : Frees inner task)
    (later : Thread.Later ⟨inner ++ outer, task.bind following⟩ thread) :
    (∃ others rest, Frees others rest ∧ thread = ⟨others ++ outer, rest.bind following⟩) ∨
      ∃ value, Thread.Later ⟨outer, following value⟩ thread := by
  generalize isFirst : (⟨inner ++ outer, task.bind following⟩ : Thread σ) = first at later
  induction later with
  | refl => exact .inl ⟨inner, task, frees, isFirst.symm⟩
  | step _ stepping ih =>
      obtain ⟨others, rest, restFrees, rfl⟩ | ⟨value, through⟩ := ih
      · by_cases ended : ∃ value, rest = .done value
        · obtain ⟨value, rfl⟩ := ended
          cases restFrees
          exact .inr ⟨value, .step (.refl _) stepping⟩
        · exact .inl (restFrees.step_bind (fun value isDone => ended ⟨value, isDone⟩) stepping)
      · exact .inr ⟨value, .step through stepping⟩

/-! ## What the mask says -/

/-- The bits of the mask are the slots that threads hold, no slot twice, and every thread is going to
free what it holds. -/
structure System.Kept (system : System σ) : Prop where
  bits : ∀ slot, system.slots.isHeld slot = true ↔ slot ∈ system.guards
  distinct : system.guards.Nodup
  frees : ∀ thread ∈ system.threads, Frees thread.guards thread.task

/-- A step of a thread keeps the mask to what this thread and the others hold, no slot twice. -/
theorem Frees.step_kept {shared next : Activity × σ} {thread stepped : Thread σ} {others : List Nat}
    (frees : Frees thread.guards thread.task) (stepping : thread.step shared = some (next, stepped))
    (bits : ∀ slot, shared.1.slots.isHeld slot = true ↔ slot ∈ thread.guards ++ others)
    (distinct : (thread.guards ++ others).Nodup) :
    (∀ slot, next.1.slots.isHeld slot = true ↔ slot ∈ stepped.guards ++ others) ∧
      (stepped.guards ++ others).Nodup := by
  obtain ⟨sameSlots, sameGuards⟩ | ⟨slot, acquired, taken⟩ | ⟨slot, released, freed⟩ :=
    frees.step_cases stepping
  · rw [sameSlots, sameGuards]
    exact ⟨bits, distinct⟩
  · have free := (Slots.acquire?_eq_some_iff.mp acquired).1.2.1
    rw [taken]
    refine ⟨fun other => ?_, List.nodup_cons.mpr ⟨fun isHeld => ?_, distinct⟩⟩
    · rw [Slots.isHeld_acquired acquired, bits, List.cons_append, List.mem_cons]
    · rw [(bits slot).mpr isHeld] at free
      cases free
  · rw [freed, List.cons_append] at bits distinct
    obtain ⟨isGone, rest⟩ := List.nodup_cons.mp distinct
    refine ⟨fun other => ?_, rest⟩
    rw [released, Slots.isHeld_release, bits, List.mem_cons]
    constructor
    · rintro ⟨rfl | isHeld, isOther⟩
      · exact absurd rfl isOther
      · exact isHeld
    · intro isHeld
      exact ⟨.inr isHeld, fun same => isGone (same ▸ isHeld)⟩

theorem System.guards_split (shared : Activity × σ) (before after : List (Thread σ))
    (thread : Thread σ) : ((⟨shared, before ++ thread :: after⟩ : System σ).guards).Perm
      (thread.guards ++ (⟨shared, before ++ after⟩ : System σ).guards) := by
  simp only [guards, List.flatMap_append, List.flatMap_cons]
  exact List.perm_append_comm_assoc _ _ _

theorem System.kept_of_reachable {rules : RuleSet} {system : System σ}
    (reachable : system.Reachable rules) : system.Kept := by
  induction reachable with
  | start counters memory =>
      refine ⟨fun slot => ?_, List.nodup_nil, fun thread isThread => by cases isThread⟩
      simp [slots, guards, Slots.isHeld_empty]
  | spawn program _ ih =>
      refine ⟨ih.bits, ih.distinct, ?_⟩
      rintro thread (_ | ⟨_, isOther⟩)
      · exact frees_task rules program
      · exact ih.frees thread isOther
  | @step shared before thread after following stepped _ stepping ih =>
      have threadFrees := ih.frees thread (List.mem_append_right _ List.mem_cons_self)
      have freed := threadFrees.step stepping
      -- the thread that takes the step comes first, the others stay as they are
      have split := System.guards_split shared before after thread
      have splitNext := System.guards_split following before after stepped
      generalize isOthers : (⟨shared, before ++ after⟩ : System σ).guards = others at split
      rw [show (⟨following, before ++ after⟩ : System σ).guards = others from isOthers] at splitNext
      have steppedKept := threadFrees.step_kept stepping
        (fun slot => (ih.bits slot).trans split.mem_iff) (split.nodup_iff.mp ih.distinct)
      refine ⟨fun slot => (steppedKept.1 slot).trans splitNext.mem_iff.symm,
        splitNext.nodup_iff.mpr steppedKept.2, ?_⟩
      intro other isOther
      obtain inBefore | inAfter := List.mem_append.mp isOther
      · exact ih.frees other (List.mem_append_left _ inBefore)
      · obtain _ | ⟨_, inAfter⟩ := inAfter
        · exact freed
        · exact ih.frees other (List.mem_append_right _ (List.mem_cons_of_mem _ inAfter))

/-- What can be relied on at any moment while threads scan with a rule set. -/
structure System.Guarded (rules : RuleSet) (system : System σ) : Prop where
  /-- The mask shows the slots that are held. -/
  bits : ∀ slot, system.slots.isHeld slot = true ↔ slot ∈ system.guards
  distinct : system.guards.Nodup
  counted : system.slots.held = system.guards.length
  /-- A scan would get the lowest slot that nobody holds, and take no other. -/
  lowest : ∀ slot after, system.slots.acquire? = some (slot, after) →
    slot < Slots.count ∧ slot ∉ system.guards ∧ (∀ smaller < slot, smaller ∈ system.guards) ∧
      ∀ other, after.isHeld other = true ↔ other = slot ∨ other ∈ system.guards
  full : system.slots.acquire? = none ↔ system.guards.length = Slots.count
  /-- A scan that gets no slot is over at once: it changes nothing and tells its listener nothing. -/
  refused : ∀ guards first rest flags timeout clock listener
    (following : Except Error Unit → Task σ Reply), system.guards.length = Slots.count →
      Thread.step system.shared
          ⟨guards, (Task.scan rules (first :: rest) flags timeout clock listener).bind following⟩ =
        some (system.shared, ⟨guards, following (.error .tooManyScans)⟩)
  /-- Any other scan takes a slot and then does its work with it. -/
  granted : ∀ guards first rest flags timeout clock listener
    (following : Except Error Unit → Task σ Reply), system.guards.length ≠ Slots.count →
      ∃ slot slots, system.slots.acquire? = some (slot, slots) ∧
        Thread.step system.shared
            ⟨guards, (Task.scan rules (first :: rest) flags timeout clock listener).bind following⟩ =
          some (({ system.shared.1 with slots }, system.shared.2), ⟨slot :: guards,
            ((Task.report rules (first :: rest)
              (.new rules slot flags (UInt64.ofNat first.data.size) timeout clock) listener).bind
                fun result => .release slot (.done result)).bind following⟩)
  /-- A step of a thread frees no slot but the one that this thread took last. -/
  steps : ∀ thread ∈ system.threads, ∀ next stepped,
    thread.step system.shared = some (next, stepped) →
      (next.1.slots = system.slots ∧ stepped.guards = thread.guards) ∨
      (∃ slot, system.slots.acquire? = some (slot, next.1.slots) ∧
        stepped.guards = slot :: thread.guards) ∨
      ∃ slot, thread.guards = slot :: stepped.guards ∧
        ∀ other, next.1.slots.isHeld other = true ↔ other ≠ slot ∧ other ∈ system.guards
  /-- Without a scan under way the mask is empty. -/
  idle : (∀ thread ∈ system.threads, ∃ program : Program σ, thread.task = program.task rules) →
    system.slots = .empty

theorem System.Kept.guarded {system : System σ} (kept : system.Kept) (rules : RuleSet) :
    system.Guarded rules := by
  have counted := Slots.held_eq_length kept.distinct kept.bits
  have full : system.slots.acquire? = none ↔ system.guards.length = Slots.count := by
    rw [Slots.acquire?_eq_none_iff_held, counted]
  refine ⟨kept.bits, kept.distinct, counted, ?_, full, ?_, ?_, ?_, ?_⟩
  · intro slot after acquired
    obtain ⟨⟨within, free, taken⟩, -⟩ := Slots.acquire?_eq_some_iff.mp acquired
    refine ⟨within, fun isHeld => ?_, fun smaller below => (kept.bits smaller).mp (taken smaller below),
      fun other => ?_⟩
    · rw [(kept.bits slot).mpr isHeld] at free
      cases free
    · rw [Slots.isHeld_acquired acquired, kept.bits]
  · intro guards first rest flags timeout clock listener following isFull
    simp only [Task.scan, Task.bind, Thread.step]
    rw [show system.shared.1.slots.acquire? = none from full.mpr isFull]
  · intro guards first rest flags timeout clock listener following notFull
    obtain ⟨⟨slot, slots⟩, acquired⟩ :=
      Option.ne_none_iff_exists'.mp fun none => notFull (full.mp none)
    refine ⟨slot, slots, acquired, ?_⟩
    simp only [Task.scan, Task.bind, Thread.step]
    rw [show system.shared.1.slots.acquire? = some (slot, slots) from acquired]
  · intro thread isThread next stepped stepping
    obtain same | acquired | ⟨slot, released, freed⟩ :=
      (kept.frees thread isThread).step_cases stepping
    · exact .inl same
    · exact .inr (.inl acquired)
    · refine .inr (.inr ⟨slot, freed, fun other => ?_⟩)
      rw [released, Slots.isHeld_release, and_comm]
      exact and_congr_right fun _ => kept.bits other
  · intro resting
    have none : system.guards = [] := by
      refine List.flatMap_eq_nil_iff.mpr fun thread isThread => ?_
      obtain ⟨program, isProgram⟩ := resting thread isThread
      have frees := kept.frees thread isThread
      rw [isProgram] at frees
      exact frees.unique system.shared (frees_task rules program)
    refine Slots.ext_isHeld fun slot => ?_
    simp [kept.bits, none, Slots.isHeld_empty]

/-- Threads may scan with a rule set in any interleaving, and listeners may scan again: the slots in use
are those that scans under way hold, each for itself alone. The steps of a thread are those of its
scans, and a scan that is through leaves its thread the slots which it held before. -/
theorem guarded_of_reachable (rules : RuleSet) :
    (∀ program : Program σ, (program.task rules).alone = program.alone rules) ∧
    (∀ guards blocks flags timeout clock (listener : Message → Program σ) following later,
      Thread.Later ⟨guards, (Task.scan rules blocks flags timeout clock
          fun message => (listener message).task rules).bind following⟩ later →
        (∃ inner rest, Frees inner rest ∧ later = ⟨inner ++ guards, rest.bind following⟩) ∨
          ∃ result, Thread.Later ⟨guards, following result⟩ later) ∧
    ∀ system : System σ, system.Reachable rules → system.Guarded rules := by
  refine ⟨Program.alone_task rules, ?_, fun system reachable =>
    (System.kept_of_reachable reachable).guarded rules⟩
  intro guards blocks flags timeout clock listener following later becomes
  have frees := frees_scan (fun message => frees_task rules (listener message)) rules blocks flags
    timeout clock
  exact frees.later becomes

/-- Of two scans under way, the first one is through before the second: slot 1 stays held, and slot 0 is
free again. -/
theorem guarded_of_reachable_overtaken :
    ∃ rules, ({} : Collection).compile = .ok rules ∧
      ∃ system : System Unit, system.Reachable rules ∧ system.threads.length = 2 ∧
        system.guards = [1] ∧ system.slots = ⟨2⟩ ∧
        (∃ slots, system.slots.acquire? = some (0, slots)) ∧ system.Guarded rules := by
  have small : (Automaton.tablesOf (signsOf []) 0).cells.size ≤ Automaton.tableLimit :=
    (Automaton.size_cells_le _ _).trans (by decide)
  obtain ⟨rules, compiled, gives⟩ :=
    @Collection.compile_ok {} ⟨#[], #[], #[], [], []⟩ rfl (by with_unfolding_all rfl) small
  refine ⟨rules, compiled, ?_⟩
  let block : Block := ⟨0, ⟨#[0x41]⟩⟩
  -- the time is over before the first byte
  have late (slot : Nat) : ∃ after,
      Scan.gather rules [block] (.new rules slot { } 1 1 (.steady 2)) = .error .timeout after := by
    let started := Scan.begun [] (Context.new rules slot { } 1 1 (.steady 2))
    obtain ⟨entryPoint, detected⟩ := Scan.detectEntryPoint_rest block started
    have overdue : Scan.scanBlock rules block { started with entryPoint } =
        .error .timeout { started.looked with entryPoint } := rfl
    refine ⟨{ started.looked with entryPoint }, ?_⟩
    rw [Scan.gather, gives.sameExternals]
    change EStateM.bind (EStateM.bind (EStateM.map (fun _ => ()) (Scan.scanBlock rules block))
      fun _ => Scan.scanBlocks rules []) (fun _ => Scan.evaluate rules)
        (Scan.detectEntryPoint block started) = _
    rw [detected, EStateM.bind, EStateM.bind, EStateM.map, overdue]
  let program : Program Unit :=
    .scan [block] { } 1 (.steady 2) (fun _ => .answer .proceed) fun _ => .answer .proceed
  let holding (slot : Nat) : Thread Unit :=
    ⟨[slot], .release slot (.done .proceed)⟩
  have takes (slot : Nat) (slots after : Slots) (acquired : slots.acquire? = some (slot, after)) :
      Thread.step ((⟨slots, rules.counters⟩, ()) : Activity × Unit) ⟨[], program.task rules⟩ =
        some ((⟨after, rules.counters⟩, ()), holding slot) := by
    obtain ⟨stopped, gathered⟩ := late slot
    simp only [program, Program.task, Task.scan, Task.bind, Thread.step, acquired, Task.report]
    rw [show UInt64.ofNat block.data.size = 1 from rfl, gathered]
    rfl
  have released : Slots.release ⟨3⟩ 0 = ⟨2⟩ := by decide
  have frees : (holding 0).step ((⟨⟨3⟩, rules.counters⟩, ()) : Activity × Unit) =
      some ((⟨⟨2⟩, rules.counters⟩, ()), ⟨[], .done .proceed⟩) := by
    simp only [holding, Thread.step, released]
    rfl
  have empty : System.Reachable rules ⟨(⟨.empty, rules.counters⟩, ()), []⟩ := .start _ _
  have one : System.Reachable rules ⟨(⟨⟨1⟩, rules.counters⟩, ()), [] ++ [holding 0]⟩ :=
    .step (empty.spawn program) (takes 0 .empty ⟨1⟩ (by decide))
  have two : System.Reachable rules
      ⟨(⟨⟨3⟩, rules.counters⟩, ()), [] ++ holding 1 :: [holding 0]⟩ :=
    .step (one.spawn program) (takes 1 ⟨1⟩ ⟨3⟩ (by decide))
  have overtaken : System.Reachable rules
      ⟨(⟨⟨2⟩, rules.counters⟩, ()), [holding 1] ++ ⟨[], .done .proceed⟩ :: []⟩ :=
    .step two frees
  have again : Slots.acquire? ⟨2⟩ = some (0, ⟨3⟩) := by decide
  exact ⟨_, overtaken, rfl, rfl, rfl, ⟨⟨3⟩, again⟩,
    (guarded_of_reachable rules).2.2 _ overtaken⟩

end ByteScan
