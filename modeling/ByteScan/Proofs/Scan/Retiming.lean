import ByteScan.Proofs.Scan.Echoing
import ByteScan.Proofs.Scan.Tracking

/-!
# Scans with and without a time limit

What a scan does besides counting time does not depend on time. A scan of a state with other times
does the same, up to these times (`Context.retimed`). So a scan that has a time limit ends as it would
without one, unless it is too late at some check: `gather_untimed`.
-/

namespace ByteScan

structure Times where
  timeout : Nanoseconds
  clock : Clock
  started : Nanoseconds
  strings : Array Nanoseconds
  rules : Array Nanoseconds

def Context.retimed (context : Context) (times : Times) : Context :=
  { context with
    timeout := times.timeout
    clock := times.clock
    started := times.started
    stringTimes := times.strings
    ruleTimes := times.rules }

def Context.times (context : Context) : Times :=
  ⟨context.timeout, context.clock, context.started, context.stringTimes, context.ruleTimes⟩

namespace Scan

def retimed (times : Times) : EStateM.Result Error Context α → EStateM.Result Error Context α
  | .ok value context => .ok value (context.retimed times)
  | .error error context => .error error (context.retimed times)

variable {rules : RuleSet} {context : Context}

theorem remember_retimed (times : Times) (string : Nat) (block : Block) (offset : Nat) :
    remember rules string block offset (context.retimed times) =
      (remember rules string block offset context).retimed times := by
  unfold remember
  split
  · rfl
  · rfl

theorem addMatch_retimed (times : Times) (string : Nat) (found : Match) :
    Context.addMatch string found (context.retimed times) =
      retimed times (Context.addMatch string found context) := by
  unfold Context.addMatch
  change (if context.hasRoom string = true then if context.matchCount string = 0 then _ else _
    else _) = _
  split
  · split
    · rfl
    · rfl
  · rfl

theorem confirm_retimed (times : Times) (number : Nat) (block : Block) (offset : Nat) :
    confirm rules number block offset (context.retimed times) =
      retimed times (confirm rules number block offset context) := by
  unfold confirm
  cases rules.strings[number]? with
  | none => rfl
  | some string =>
      change (if isSettled context number || isKnown rules context number block offset then _
        else _) = _
      dsimp only
      split
      · rfl
      · cases string.matchLength? block.data offset with
        | none => rfl
        | some length =>
            dsimp only
            rw [remember_retimed, addMatch_retimed]

theorem detectEntryPoint_retimed (times : Times) (block : Block) :
    detectEntryPoint block (context.retimed times) = (detectEntryPoint block context).retimed times := by
  unfold detectEntryPoint
  rw [show (context.retimed times).entryPoint = context.entryPoint from rfl,
    show (context.retimed times).flags = context.flags from rfl]
  cases context.entryPoint with
  | some _ => rfl
  | none =>
      cases blockEntryPoint context.flags block with
      | ok _ => rfl
      | error _ => rfl

theorem bindExternals_retimed (times : Times) (externals : List External) :
    Context.bindExternals externals (context.retimed times) =
      retimed times (Context.bindExternals externals context) := by
  induction externals generalizing context with
  | nil => rfl
  | cons external externals ih =>
      rw [bindExternals_cons, bindExternals_cons]
      change (if (context.object? external.identifier).isSome = true then _ else _) = _
      dsimp only
      split
      · rfl
      · exact @ih { context with
          objects := (external.identifier, Context.valueOf external.value) :: context.objects }

theorem valueOf_retimed (times : Times) (stack : List Value) (instruction : Instruction) :
    valueOf rules (context.retimed times) stack instruction =
      valueOf rules context stack instruction := by
  cases instruction <;> rfl

theorem recordVerdict_retimed (times : Times) (number : Nat) (value : Value) :
    recordVerdict rules number value (context.retimed times) =
      (recordVerdict rules number value context).retimed times := by
  unfold recordVerdict
  split
  · rfl
  · split
    · split
      · rfl
      · rfl
    · rfl

theorem confirm_ne_timeout {number : Nat} {block : Block} {offset : Nat} {error : Error}
    {after : Context} (failed : confirm rules number block offset context = .error error after) :
    error ≠ .timeout := by
  unfold confirm at failed
  split at failed
  · cases failed
    intro same
    cases same
  · split at failed
    · cases failed
    · split at failed
      · cases failed
      · obtain ⟨_, _, ended⟩ | ended :=
          addMatch_cases number _ (remember rules number block offset context)
        · cases ended.symm.trans failed
        · cases ended.symm.trans failed
          intro same
          cases same

theorem bindExternals_ne_timeout {externals : List External} {error : Error} {after : Context}
    (failed : Context.bindExternals externals context = .error error after) : error ≠ .timeout := by
  induction externals generalizing context with
  | nil => cases failed
  | cons external externals ih =>
      rw [bindExternals_cons] at failed
      dsimp only at failed
      split at failed
      · cases failed
        intro same
        cases same
      · exact ih failed

/-! ## A scan beside one without a time limit -/

/-- At some look at this clock the time since the start is beyond the limit. -/
def Late (timeout : Nanoseconds) (clock : Clock) (started : Nanoseconds) : Prop :=
  timeout ≠ 0 ∧ ∃ look, timeout < clock.reading look - started

/-- A scan that began in this state, and one without a time limit that is as far. -/
structure Untimed (start first second : Context) : Prop where
  same : ∃ times, times.timeout = 0 ∧ second = first.retimed times
  readings : first.clock.reading = start.clock.reading
  timeout : first.timeout = start.timeout
  started : first.started = start.started
  flags : first.flags = start.flags

def Stops (start : Context) (error : Error) : Prop :=
  error = .timeout ∧ Late start.timeout start.clock start.started

theorem times_of_retimed {action : ScanM α} (commutes : ∀ (context : Context) (times : Times),
      action (context.retimed times) = retimed times (action context))
    {value : α} {after : Context} (ended : action context = .ok value after) :
    after.times = context.times := by
  have own : action context = retimed context.times (action context) := commutes context context.times
  rw [ended] at own
  injection own with _ kept
  have same : after.times = (after.retimed context.times).times := congrArg Context.times kept
  exact same

namespace Untimed

variable {start first second : Context}

theorem of_retimed {action : ScanM α} (untimed : Untimed start first second)
    (commutes : ∀ (context : Context) (times : Times),
      action (context.retimed times) = Scan.retimed times (action context)) (excused : Error → Prop)
    (other : ∀ error after, action first = .error error after → error ≠ .timeout)
    (keeps : ∀ value after, action first = .ok value after → after.flags = first.flags) :
    Tracks excused (fun _ _ after second => Untimed start after second ∧ after.times = first.times)
      (action first) (action second) := by
  obtain ⟨⟨times, unlimited, rfl⟩, readings, limit, begun, flags⟩ := untimed
  rw [commutes]
  cases ended : action first with
  | error error after => exact .inr ⟨rfl, other error after ended⟩
  | ok value after =>
      have same := times_of_retimed commutes ended
      exact ⟨⟨⟨times, unlimited, rfl⟩,
        (congrArg (fun times : Times => times.clock.reading) same).trans readings,
        (congrArg Times.timeout same).trans limit, (congrArg Times.started same).trans begun,
        (keeps value after ended).trans flags⟩, same⟩

variable (untimed : Untimed start first second)
include untimed

theorem map {change : Context → Context} (commutes : ∀ (context : Context) (times : Times),
      change (context.retimed times) = (change context).retimed times)
    (keeps : (change first).flags = first.flags) :
    Untimed start (change first) (change second) := by
  obtain ⟨⟨times, unlimited, rfl⟩, readings, limit, begun, flags⟩ := untimed
  have kept : change first = (change first).retimed first.times := commutes first first.times
  have same : (change first).times = ((change first).retimed first.times).times :=
    congrArg Context.times kept
  exact ⟨⟨times, unlimited, commutes first times⟩,
    (congrArg (fun times : Times => times.clock.reading) same).trans readings,
    (congrArg Times.timeout same).trans limit, (congrArg Times.started same).trans begun,
    keeps.trans flags⟩

theorem checkDeadline : Tracks (Stops start) (fun _ _ => Untimed start)
    (Context.checkDeadline first) (Context.checkDeadline second) := by
  obtain ⟨⟨times, unlimited, rfl⟩, readings, limit, begun, flags⟩ := untimed
  have inTime : Context.checkDeadline (first.retimed times) = .ok () (first.retimed times) :=
    checkDeadline_unlimited unlimited
  rw [inTime, Context.checkDeadline]
  split
  · exact ⟨⟨times, unlimited, rfl⟩, readings, limit, begun, flags⟩
  · rename_i limited
    dsimp only
    split
    · rename_i overdue
      refine ⟨rfl, limit ▸ limited, first.clock.looked, ?_⟩
      rw [← limit, ← begun, ← readings]
      exact overdue
    · exact ⟨⟨times, unlimited, rfl⟩, readings, limit, begun, flags⟩

theorem pass (looked : Nat) (clock : Clock) (strings strings' rules rules' : Array Nanoseconds) :
    Untimed start
      { first with clock := ⟨first.clock.reading, looked⟩, stringTimes := strings, ruleTimes := rules }
      { second with clock, stringTimes := strings', ruleTimes := rules' } := by
  obtain ⟨⟨times, unlimited, rfl⟩, readings, limit, begun, flags⟩ := untimed
  exact ⟨⟨{ times with clock, strings := strings', rules := rules' }, unlimited, rfl⟩, readings,
    limit, begun, flags⟩

theorem profile : second.flags.profile = first.flags.profile := by
  obtain ⟨times, _, rfl⟩ := untimed.same
  rfl

end Untimed

theorem flags_of_confirm {number : Nat} {block : Block} {offset : Nat} {value : Unit} {after : Context}
    (ended : confirm rules number block offset context = .ok value after) :
    after.flags = context.flags := by
  have untouched : Untouched context context := ⟨rfl, rfl, rfl, rfl, rfl, rfl⟩
  have kept : Outcome (fun _ => Untouched context) (fun _ _ => True)
      (confirmBy rules.hasMixedBacktrack rules number block offset context) :=
    untouched.confirmBy number block offset
  change Outcome _ _ (confirm rules number block offset context) at kept
  rw [ended] at kept
  exact kept.flags

theorem steps_untimed (rules : RuleSet) (start : Context) :
    Steps rules (Stops start) (Untimed start) where
  confirm := fun block offset untimed _ =>
    (untimed.of_retimed (fun _ times => confirm_retimed times _ block offset) _
      (fun _ _ => confirm_ne_timeout) fun _ _ => flags_of_confirm).imp fun _ _ _ _ both => both.1
  deadline := Untimed.checkDeadline
  looked := fun untimed => untimed.pass _ _ _ _ _ _
  charged := fun _ _ _ untimed => untimed.pass _ _ _ _ _ _
  profile := Untimed.profile
  detected := fun {first _} block untimed =>
    untimed.map (fun _ times => detectEntryPoint_retimed times block) (by
      obtain ⟨_, detected⟩ := detectEntryPoint_rest block first
      rw [detected])

theorem follows_untimed (rules : RuleSet) (start : Context) :
    Follows rules (Stops start) (fun _ => True) (Untimed start) where
  value := by
    rintro first _ instruction stack ⟨⟨times, _, rfl⟩, _⟩ _
    exact valueOf_retimed times stack instruction
  verdict := fun {first _} number value untimed =>
    untimed.map (fun _ times => recordVerdict_retimed times number value) (by
      rw [recordVerdict_eq])
  deadline := Untimed.checkDeadline
  looked := fun untimed => untimed.pass _ _ _ _ _ _
  charged := fun _ _ _ untimed => untimed.pass _ _ _ _ _ _
  profile := Untimed.profile

/-- A scan with a time limit is too late, or it ends as one without a time limit. -/
theorem gather_untimed (rules : RuleSet) (blocks : List Block) (slot : Nat) (flags : ScanFlags)
    (fileSize : UInt64) (timeout : Nanoseconds) (clock clock' : Clock) :
    Tracks (fun error => error = .timeout ∧
        Late timeout clock (clock.reading (clock.looked + 1)))
      (fun _ _ first second => first.flags = flags ∧ ∃ times, second = first.retimed times)
      (gather rules blocks (.new rules slot flags fileSize timeout clock))
      (gather rules blocks (.new rules slot flags fileSize 0 clock')) := by
  let fresh := Context.new rules slot flags fileSize timeout clock
  let other := Context.new rules slot flags fileSize 0 clock'
  let start : Context := { fresh with started := clock.reading (clock.looked + 1) }
  have begun : Untimed fresh fresh other :=
    ⟨⟨other.times, rfl, rfl⟩, rfl, rfl, rfl, rfl⟩
  have bound := begun.of_retimed (fun _ times => bindExternals_retimed times rules.externals)
    (Stops start) (fun _ _ => bindExternals_ne_timeout) fun _ _ ended => by
      obtain ⟨objects, others⟩ := bindExternals_eq_ok ended
      cases (others fresh rfl).symm.trans ended
      rfl
  apply bound.bind
  rintro _ _ first second ⟨⟨⟨times, unlimited, rfl⟩, readings, limit, _, flags⟩, same⟩
  have started : Untimed start { first.looked with started := first.clock.look.1 }
      { (first.retimed times).looked with started := times.clock.look.1 } :=
    ⟨⟨{ times with clock := times.clock.look.2, started := times.clock.look.1 }, unlimited, rfl⟩,
      readings, limit, congrArg (fun times : Times => times.clock.look.1) same, flags⟩
  apply Tracks.bind (show Tracks _ (fun _ _ => Untimed start)
    (Context.startClock first) (Context.startClock (first.retimed times)) from started)
  intro _ _ first second untimed
  apply ((steps_untimed rules start).scanBlocks blocks untimed).bind
  intro _ _ first second untimed
  exact ((follows_untimed rules start).evaluate untimed fun _ _ => trivial).imp
    fun _ _ _ _ untimed => ⟨untimed.flags, untimed.same.imp fun _ => And.right⟩

end Scan

end ByteScan
