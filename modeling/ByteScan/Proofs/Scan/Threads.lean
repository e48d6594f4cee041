import ByteScan.Proofs.Scan.Announcing

/-!
# Threads that scan

Scans of one rule set may run at the same time, on several threads, and a listener may scan again while
it is told something. A `Program` is what a thread does. It is taken apart into the atomic steps of a
`Task`, between which other threads may do anything. `Program.alone_task` says that the steps of a thread
that is left alone are what `Scan.run` does.
-/

namespace ByteScan

/-- What a thread or a listener does: it works on what all threads share, it scans, and it ends with an
answer. Only scans touch the slots. -/
inductive Program (σ : Type) where
  | answer (reply : Reply)
  | work (effect : Activity × σ → Counters × σ) (next : Activity × σ → Program σ)
  | scan (blocks : List Block) (flags : ScanFlags) (timeout : Nanoseconds) (clock : Clock)
      (listener : Message → Program σ) (next : Except Error Unit → Program σ)

def Program.alone (rules : RuleSet) : Program σ → SharedM σ Reply
  | .answer reply => pure reply
  | .work effect next => fun shared =>
    (next shared).alone rules ({ shared.1 with counters := (effect shared).1 }, (effect shared).2)
  | .scan blocks flags timeout clock listener next =>
    Scan.run rules blocks flags timeout clock (fun message => (listener message).alone rules) >>=
      fun result => (next result).alone rules

/-- Atomic steps on what all threads share, one after another, until there is a value. -/
inductive Task (σ α : Type) where
  | done (value : α)
  | work (effect : Activity × σ → Counters × σ) (next : Activity × σ → Task σ α)
  | acquire (next : Option Nat → Task σ α)
  | release (slot : Nat) (next : Task σ α)

namespace Task

def bind : Task σ α → (α → Task σ β) → Task σ β
  | .done value, following => following value
  | .work effect next, following => .work effect fun shared => (next shared).bind following
  | .acquire next, following => .acquire fun slot => (next slot).bind following
  | .release slot next, following => .release slot (next.bind following)

def alone : Task σ α → SharedM σ α
  | .done value => pure value
  | .work effect next => fun shared =>
    (next shared).alone ({ shared.1 with counters := (effect shared).1 }, (effect shared).2)
  | .acquire next => fun shared =>
    match shared.1.slots.acquire? with
    | none => (next none).alone shared
    | some (slot, slots) => (next (some slot)).alone ({ shared.1 with slots }, shared.2)
  | .release slot next => fun shared =>
    next.alone ({ shared.1 with slots := shared.1.slots.release slot }, shared.2)

/-! ## Scans -/

def charge : List Charge → Task σ Unit
  | [] => .done ()
  | charge :: charges =>
    .work (fun shared => (shared.1.counters.apply charge, shared.2)) fun _ => Task.charge charges

def record (context : Context) : Task σ Unit :=
  if context.flags.profile then
    .work (fun shared => (shared.1.counters, shared.2)) fun shared =>
      charge (shared.1.counters.chargesOf context)
  else .done ()

def announce (listener : Message → Task σ Reply) : List Message → Task σ (Except Error Unit)
  | [] => (listener .finished).bind fun _ => .done (.ok ())
  | message :: messages => (listener message).bind fun
    | .proceed => announce listener messages
    | .abort => .done (.ok ())
    | .fail => .done (.error .callback)

def report (rules : RuleSet) (blocks : List Block) (context : Context)
    (listener : Message → Task σ Reply) : Task σ (Except Error Unit) :=
  match Scan.gather rules blocks context with
  | .error error _ => .done (.error error)
  | .ok () context => (record context).bind fun _ => announce listener (Scan.verdicts rules context)

/-- The steps of a scan: it takes a slot first and frees it last. -/
def scan (rules : RuleSet) (blocks : List Block) (flags : ScanFlags) (timeout : Nanoseconds)
    (clock : Clock) (listener : Message → Task σ Reply) : Task σ (Except Error Unit) :=
  match blocks with
  | [] => .done (.ok ())
  | first :: _ => .acquire fun
    | none => .done (.error .tooManyScans)
    | some slot =>
      let context : Context := .new rules slot flags (UInt64.ofNat first.data.size) timeout clock
      (report rules blocks context listener).bind fun result => .release slot (.done result)

end Task

def Program.task (rules : RuleSet) : Program σ → Task σ Reply
  | .answer reply => .done reply
  | .work effect next => .work effect fun shared => (next shared).task rules
  | .scan blocks flags timeout clock listener next =>
    (Task.scan rules blocks flags timeout clock fun message => (listener message).task rules).bind
      fun result => (next result).task rules

/-! ## A thread that is left alone -/

theorem shared_bind (first : SharedM σ α) (next : α → SharedM σ β) (shared : Activity × σ) :
    (first >>= next) shared = next (first shared).1 (first shared).2 := rfl

namespace Task

theorem alone_bind (task : Task σ α) (following : α → Task σ β) :
    (task.bind following).alone = task.alone >>= fun value => (following value).alone := by
  induction task with
  | done value => rfl
  | work effect next ih =>
      funext shared
      exact congrFun (ih shared) _
  | acquire next ih =>
      funext shared
      rw [Task.bind, Task.alone, shared_bind, Task.alone]
      dsimp only
      cases shared.1.slots.acquire? with
      | none => exact congrFun (ih none) shared
      | some acquired => exact congrFun (ih (some acquired.1)) _
  | release slot next ih =>
      funext shared
      exact congrFun ih _

theorem alone_charge (charges : List Charge) (shared : Activity × σ) :
    (charge charges).alone shared = ((), ({ shared.1 with
      counters := charges.foldl Counters.apply shared.1.counters }, shared.2)) := by
  induction charges generalizing shared with
  | nil => rfl
  | cons first charges ih => exact ih _

theorem alone_record (context : Context) (shared : Activity × σ) :
    (record context).alone shared = ((), (Scan.recordProfile context shared.1, shared.2)) := by
  unfold record Scan.recordProfile
  split
  · exact alone_charge _ _
  · rfl

theorem alone_announce (listener : Message → Task σ Reply) (messages : List Message) :
    (announce listener messages).alone =
      Scan.announce (fun message => (listener message).alone) messages := by
  induction messages with
  | nil => exact alone_bind _ _
  | cons message messages ih =>
      rw [announce, alone_bind, Scan.announce]
      congr 1
      funext reply
      cases reply with
      | proceed => exact ih
      | abort => rfl
      | fail => rfl

theorem alone_report (rules : RuleSet) (blocks : List Block) (context : Context)
    (listener : Message → Task σ Reply) :
    (report rules blocks context listener).alone =
      Scan.report rules blocks context fun message => (listener message).alone := by
  rw [report, Scan.report]
  cases Scan.gather rules blocks context with
  | error error after => rfl
  | ok _ after =>
      dsimp only
      rw [alone_bind, alone_announce]
      funext shared
      rw [shared_bind, alone_record]
      rfl

theorem alone_scan (rules : RuleSet) (blocks : List Block) (flags : ScanFlags)
    (timeout : Nanoseconds) (clock : Clock) (listener : Message → Task σ Reply) :
    (scan rules blocks flags timeout clock listener).alone =
      Scan.run rules blocks flags timeout clock fun message => (listener message).alone := by
  cases blocks with
  | nil => rfl
  | cons first rest =>
      funext shared
      obtain ⟨activity, memory⟩ := shared
      rw [scan, Scan.run, Scan.withSlot_eq, Task.alone]
      dsimp only
      cases activity.slots.acquire? with
      | none => rfl
      | some acquired =>
          dsimp only
          rw [alone_bind, alone_report]
          rfl

end Task

/-- The steps of a thread that is left alone are what the thread does. -/
theorem Program.alone_task (rules : RuleSet) (program : Program σ) :
    (program.task rules).alone = program.alone rules := by
  induction program with
  | answer reply => rfl
  | work effect next ih =>
      funext shared
      exact congrFun (ih shared) _
  | scan blocks flags timeout clock listener next ihListener ihNext =>
      rw [Program.task, Task.alone_bind, Task.alone_scan, Program.alone]
      simp only [ihListener, ihNext]

end ByteScan
