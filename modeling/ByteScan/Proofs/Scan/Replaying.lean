import ByteScan.Proofs.Scan.Retiming

/-!
# Deadlines

A scan with a time limit looks at the clock more often than one without. If it ends in time, then there
is a clock with which the scan without a limit ends in the very same state: one that shows the same
readings, but for those at which only the deadline was checked (`Replays.gather`). With any other
clock there is no difference but for the times in a profile. So a deadline never makes a scan tell
anything else than it would tell anyway: `run_timed`.
-/

namespace ByteScan

namespace Clock

def Shows : Clock → List Nanoseconds → Prop
  | _, [] => True
  | clock, time :: times => clock.look.1 = time ∧ clock.look.2.Shows times

def showing (times : List Nanoseconds) : Clock := ⟨fun look => times.getD look 0, 0⟩

theorem shows_showing (times : List Nanoseconds) : (showing times).Shows times := by
  have later (shown rest : List Nanoseconds) :
      Shows ⟨fun look => (shown ++ rest).getD look 0, shown.length⟩ rest := by
    induction rest generalizing shown with
    | nil => trivial
    | cons time rest ih =>
        refine ⟨?_, ?_⟩
        · simp [look]
        · have more := ih (shown ++ [time])
          rw [List.append_assoc, List.length_append] at more
          exact more
  exact later [] times

end Clock

def Context.unlimited (context : Context) (clock : Clock) : Context :=
  context.retimed { context.times with timeout := 0, clock }

namespace Scan

/-- Unless it is too late, the action ends in the same state without a time limit, with a clock that
shows the readings at which the deadline was not just checked. -/
def Replays (action : ScanM α) (context : Context) : Prop :=
  ∃ readings, ∀ clock more, clock.Shows (readings ++ more) →
    Tracks (· = .timeout)
      (fun value other after after' => other = value ∧
        ∃ clock', clock'.Shows more ∧ after' = after.unlimited clock')
      (action context) (action (context.unlimited clock))

variable {rules : RuleSet} {context : Context}

namespace Replays

theorem of_pure (value : α) : Replays (pure value : ScanM α) context :=
  ⟨[], fun clock _ shown => ⟨rfl, clock, shown, rfl⟩⟩

theorem of_throw {error : Error} (other : error ≠ .timeout) :
    Replays (throw error : ScanM α) context :=
  ⟨[], fun _ _ _ => .inr ⟨rfl, other⟩⟩

theorem bind {action : ScanM α} {next : α → ScanM β} (begun : Replays action context)
    (continued : ∀ value after, Replays (next value) after) : Replays (action >>= next) context := by
  obtain ⟨early, shows⟩ := begun
  cases ended : action context with
  | error error after =>
      refine ⟨early, fun clock more shown => ?_⟩
      have tracks := shows clock more shown
      rw [ended] at tracks
      change Tracks _ _ (EStateM.bind action next context)
        (EStateM.bind action next (context.unlimited clock))
      rw [EStateM.bind, EStateM.bind, ended]
      cases endedOther : action (context.unlimited clock) with
      | error other after' =>
          rw [endedOther] at tracks
          exact tracks
      | ok value after' =>
          rw [endedOther] at tracks
          refine .excuse ?_ _ _
          exact tracks
  | ok value after =>
      obtain ⟨late, shows'⟩ := continued value after
      refine ⟨early ++ late, fun clock more shown => ?_⟩
      rw [List.append_assoc] at shown
      have tracks := shows clock (late ++ more) shown
      rw [ended] at tracks
      change Tracks _ _ (EStateM.bind action next context)
        (EStateM.bind action next (context.unlimited clock))
      rw [EStateM.bind, EStateM.bind, ended]
      cases endedOther : action (context.unlimited clock) with
      | error other after' =>
          rw [endedOther] at tracks
          exact tracks.elim
      | ok other after' =>
          rw [endedOther] at tracks
          obtain ⟨rfl, clock', shown', rfl⟩ := tracks
          exact shows' clock' more shown'

theorem of_retimed {action : ScanM α}
    (commutes : ∀ (context : Context) (times : Times),
      action (context.retimed times) = Scan.retimed times (action context))
    (other : ∀ error after, action context = .error error after → error ≠ .timeout) :
    Replays action context := by
  refine ⟨[], fun clock more shown => ?_⟩
  rw [Context.unlimited, commutes]
  cases ended : action context with
  | error error after => exact .inr ⟨rfl, other error after ended⟩
  | ok value after =>
      refine ⟨rfl, clock, shown, ?_⟩
      rw [Context.unlimited, times_of_retimed commutes ended]

theorem of_modify {change : Context → Context} (commutes : ∀ (context : Context) (clock : Clock),
    change (context.unlimited clock) = (change context).unlimited clock) :
    Replays (modify change : ScanM PUnit) context :=
  ⟨[], fun clock _ shown => ⟨rfl, clock, shown, commutes context clock⟩⟩

theorem of_modify_retimed {change : Context → Context} (commutes : ∀ (context : Context) (times : Times),
    change (context.retimed times) = (change context).retimed times) :
    Replays (modify change : ScanM PUnit) context :=
  of_retimed (fun context times => congrArg (EStateM.Result.ok PUnit.unit) (commutes context times))
    fun _ _ failed => by cases failed

theorem look : Replays Context.look context :=
  ⟨[context.clock.look.1], fun clock _ shown => ⟨shown.1, clock.look.2, shown.2, rfl⟩⟩

theorem checkDeadline : Replays Context.checkDeadline context := by
  refine ⟨[], fun clock more shown => ?_⟩
  rw [checkDeadline_unlimited (show (context.unlimited clock).timeout = 0 from rfl),
    Context.checkDeadline]
  split
  · exact ⟨rfl, clock, shown, rfl⟩
  · dsimp only
    split
    · exact rfl
    · exact ⟨rfl, clock, shown, rfl⟩

/-! ## Blocks -/

theorem confirm (number : Nat) (block : Block) (offset : Nat) :
    Replays (confirm rules number block offset) context :=
  of_retimed (fun _ times => confirm_retimed times number block offset)
    fun _ _ => confirm_ne_timeout

theorem verify (string : Nat) (block : Block) (offset : Nat) :
    Replays (verify rules string block offset) context := by
  by_cases profile : context.flags.profile = true
  · obtain ⟨readings, shows⟩ : Replays (Scan.confirm rules string block offset) context.looked :=
      confirm string block offset
    have profile' (clock : Clock) : (context.unlimited clock).flags.profile = true := profile
    cases ended : Scan.confirm rules string block offset context.looked with
    | error error after =>
        refine ⟨context.clock.look.1 :: readings, fun clock more shown => ?_⟩
        have tracks := shows clock.look.2 more shown.2
        rw [verify_profiled profile, verify_profiled (profile' clock)]
        change Tracks _ _ _ (Scan.confirm rules string block offset (context.unlimited clock).looked)
          at tracks
        rw [ended] at tracks ⊢
        cases endedOther : Scan.confirm rules string block offset (context.unlimited clock).looked with
        | error other after' =>
            rw [endedOther] at tracks
            exact tracks
        | ok _ after' =>
            rw [endedOther] at tracks
            exact tracks
    | ok _ after =>
        -- the time of a string is charged from the look before it to the look after it
        refine ⟨context.clock.look.1 :: (readings ++ [after.clock.look.1]), fun clock more shown => ?_⟩
        rw [List.cons_append, List.append_assoc] at shown
        obtain ⟨isBegun, shown⟩ := shown
        have tracks := shows clock.look.2 ([after.clock.look.1] ++ more) shown
        rw [verify_profiled profile, verify_profiled (profile' clock)]
        change Tracks _ _ _ (Scan.confirm rules string block offset (context.unlimited clock).looked)
          at tracks
        rw [ended] at tracks ⊢
        cases endedOther : Scan.confirm rules string block offset (context.unlimited clock).looked with
        | error other after' =>
            rw [endedOther] at tracks
            exact tracks
        | ok _ after' =>
            rw [endedOther] at tracks
            obtain ⟨_, clock', ⟨isEnded, shown'⟩, rfl⟩ := tracks
            refine ⟨rfl, clock'.look.2, shown', ?_⟩
            change (after.unlimited clock').charged string clock.look.1 = _
            rw [isBegun]
            unfold Context.charged
            change (after.unlimited clock').looked.addStringTime string (clock'.look.1 - _) = _
            rw [isEnded]
            rfl
  · obtain ⟨readings, shows⟩ : Replays (Scan.confirm rules string block offset) context :=
      confirm string block offset
    refine ⟨readings, fun clock more shown => ?_⟩
    rw [verify_plain profile, verify_plain (show ¬(context.unlimited clock).flags.profile = true
      from profile)]
    exact shows clock more shown

theorem confirmAll (block : Block) (position : Nat) (candidates : List Candidate) :
    Replays (confirmAll rules block position candidates) context := by
  induction candidates generalizing context with
  | nil => exact of_pure 0
  | cons candidate candidates ih =>
      rw [Scan.confirmAll]
      split
      · exact (verify _ block _).bind fun _ _ => ih.bind fun count _ => of_pure (count + 1)
      · exact ih

theorem walk (block : Block) (left position state count : Nat) :
    Replays (walk rules block left position state count) context := by
  induction left generalizing position state count context with
  | zero =>
      rw [Scan.walk]
      exact (confirmAll block position _).bind fun more _ => of_pure (count + more)
  | succ left ih =>
      have next {context : Context} :
          Replays (walkOn rules block left position state count) context :=
        (confirmAll block position _).bind fun _ _ => ih _ _ _
      rw [walk_succ]
      split
      · exact checkDeadline.bind fun _ _ => next
      · exact next

theorem scanBlocks (blocks : List Block) : Replays (scanBlocks rules blocks) context := by
  induction blocks generalizing context with
  | nil => exact of_pure ()
  | cons block blocks ih =>
      rw [Scan.scanBlocks, discard_eq]
      refine (of_modify_retimed fun _ times => detectEntryPoint_retimed times block).bind fun _ _ =>
        bind ?_ fun _ _ => ih
      exact (walk block _ _ _ _).bind fun _ _ => of_pure ()

/-! ## Code -/

theorem chargeRule (number : Nat) (timer : Option Nanoseconds) :
    Replays (chargeRule number timer) context := by
  cases timer with
  | none => exact of_pure none
  | some begun => exact look.bind fun now _ => (of_modify fun _ _ => rfl).bind fun _ _ => of_pure _

theorem followInstruction (machine : MachineState) (instruction : Instruction) (place : CodePlace) :
    Replays (followInstruction rules machine instruction place) context := by
  cases puts : putsValue instruction with
  | true =>
      refine ⟨[], fun clock more shown => ?_⟩
      rw [followInstruction_puts puts, followInstruction_puts puts, Context.unlimited, valueOf_retimed]
      cases valued : valueOf rules context machine.stack instruction with
      | error error => exact .inr ⟨rfl, valueOf_ne_timeout valued⟩
      | ok result =>
          dsimp only
          split
          · exact .inr ⟨rfl, codeError_ne_timeout _⟩
          · exact ⟨rfl, clock, shown, rfl⟩
  | false =>
      cases instruction with
      | halt => exact of_pure none
      | verdict number =>
          rw [Scan.followInstruction]
          cases machine.stack with
          | nil => exact of_throw (codeError_ne_timeout _)
          | cons top stack =>
              change Replays (modify (recordVerdict rules number.toNat top) >>= fun _ =>
                Scan.chargeRule number.toNat machine.ruleBegun >>= fun ruleBegun =>
                  pure (some { machine with place, stack, ruleBegun })) context
              exact (of_modify_retimed fun _ times => recordVerdict_retimed times _ _).bind fun _ _ =>
                (chargeRule _ _).bind fun _ _ => of_pure _
      | _ => cases puts

theorem follow (left : Nat) (machine : MachineState) : Replays (follow rules left machine) context := by
  induction left generalizing machine context with
  | zero => exact of_throw (codeError_ne_timeout _)
  | succ left ih =>
      have next {context : Context} : Replays (followTaken rules left machine) context := by
        rw [followTaken]
        cases machine.place.takeInstruction rules.strings.size rules.rules.size with
        | error fault => exact of_throw (codeError_ne_timeout fault)
        | ok result =>
            refine (followInstruction _ _ _).bind fun next _ => ?_
            cases next with
            | none => exact of_pure ()
            | some machine => exact ih machine
      rw [follow_succ]
      split
      · exact checkDeadline.bind fun _ _ => next
      · exact next

theorem evaluate : Replays (evaluate rules) context := by
  have both : Replays (beginning context >>= fun timer =>
      Scan.follow rules ((rules.code.drop rules.codeStart).length + 1)
        ⟨⟨rules.codeStart, rules.code.drop rules.codeStart⟩, [], 0, timer⟩) context := by
    refine bind ?_ fun _ _ => follow _ _
    rw [beginning]
    split
    · exact look.bind fun time _ => of_pure (some time)
    · exact of_pure none
  obtain ⟨readings, shows⟩ := both
  refine ⟨readings, fun clock more shown => ?_⟩
  rw [evaluate_eq, evaluate_eq]
  exact shows clock more shown

/-- Unless it is too late, the whole scan ends in the same state without a time limit. -/
theorem gather (blocks : List Block) : Replays (gather rules blocks) context := by
  have bound : Replays (Context.bindExternals rules.externals) context :=
    of_retimed (fun _ times => bindExternals_retimed times rules.externals)
      fun _ _ => bindExternals_ne_timeout
  have started {context : Context} : Replays Context.startClock context :=
    look.bind fun time _ => of_modify fun _ _ => rfl
  exact bound.bind fun _ _ => started.bind fun _ _ =>
    (scanBlocks blocks).bind fun _ _ => evaluate

end Replays

/-! ## Whole scans -/

/-- With some clock, a scan without a time limit ends in the same state as a scan that is not too
late. -/
theorem exists_clock_gather (rules : RuleSet) (blocks : List Block) (slot : Nat) (flags : ScanFlags)
    (fileSize : UInt64) (timeout : Nanoseconds) (clock : Clock) :
    ∃ clock', Tracks (· = .timeout)
      (fun _ _ after after' => ∃ clock, after' = after.unlimited clock)
      (gather rules blocks (.new rules slot flags fileSize timeout clock))
      (gather rules blocks (.new rules slot flags fileSize 0 clock')) := by
  let context := Context.new rules slot flags fileSize timeout clock
  obtain ⟨readings, shows⟩ : Replays (gather rules blocks) context := Replays.gather blocks
  let clock' := Clock.showing (clock.look.1 :: readings)
  have shown : clock'.Shows (clock.look.1 :: (readings ++ [])) := by
    rw [List.append_nil]
    exact Clock.shows_showing _
  refine ⟨clock', (shows clock'.look.2 [] shown.2).imp ?_⟩
  rintro _ _ after after' ⟨_, clock, _, same⟩
  exact ⟨clock, same⟩

def conclude (told : Except Error (List Message)) (counters : Counters) (listener : Listener σ) :
    SharedM σ (Except Error Unit) :=
  match told with
  | .error error => pure (.error error)
  | .ok messages => do
    modify fun (activity, memory) => ({ activity with counters }, memory)
    announce listener messages

/-- What is left of a scan once it is known what it is going to tell. -/
def deliver (blocks : List Block) (told : Except Error (List Message)) (counters : Counters)
    (listener : Listener σ) : SharedM σ (Except Error Unit) :=
  match blocks with
  | [] => pure (.ok ())
  | _ :: _ => withSlot fun _ => conclude told counters listener

def told (rules : RuleSet) : EStateM.Result Error Context Unit → Except Error (List Message)
  | .ok () after => .ok (verdicts rules after)
  | .error error _ => .error error

def charged (activity : Activity) : EStateM.Result Error Context Unit → Counters
  | .ok () after => (recordProfile after activity).counters
  | .error _ _ => activity.counters

/-- A scan with a time limit tells what it would tell without one, whatever the clock shows then. At most
the times in a profile differ, and with some clock nothing does. -/
def TellsTheSame (rules : RuleSet) (blocks : List Block) (flags : ScanFlags) (timeout : Nanoseconds)
    (clock : Clock) (activity : Activity) : Prop :=
  ∃ told counters,
    (∀ (σ : Type) (listener : Listener σ) (memory : σ),
      run rules blocks flags timeout clock listener (activity, memory) =
        deliver blocks told counters listener (activity, memory)) ∧
    (∀ clock', ∃ counters', (flags.profile = false → counters' = counters) ∧
      ∀ (σ : Type) (listener : Listener σ) (memory : σ),
        run rules blocks flags 0 clock' listener (activity, memory) =
          deliver blocks told counters' listener (activity, memory)) ∧
    ∃ clock', ∀ (σ : Type) (listener : Listener σ) (memory : σ),
      run rules blocks flags 0 clock' listener (activity, memory) =
        run rules blocks flags timeout clock listener (activity, memory)

def FindsTheSame (rules : RuleSet) (blocks : List Block) (flags : ScanFlags) (timeout : Nanoseconds)
    (clock : Clock) : Prop :=
  ∀ slot fileSize after,
    gather rules blocks (.new rules slot flags fileSize timeout clock) = .ok () after →
    ∀ clock', ∃ after', gather rules blocks (.new rules slot flags fileSize 0 clock') = .ok () after' ∧
      ∀ string, after'.matchesOf string = after.matchesOf string

theorem findsTheSame (rules : RuleSet) (blocks : List Block) (flags : ScanFlags)
    (timeout : Nanoseconds) (clock : Clock) : FindsTheSame rules blocks flags timeout clock := by
  intro slot fileSize after gathered clock'
  have tracks := gather_untimed rules blocks slot flags fileSize timeout clock clock'
  obtain ⟨_, after', gathered', _, times, rfl⟩ := tracks.leads () after gathered
  exact ⟨after.retimed times, gathered', fun _ => rfl⟩

section

variable {rules : RuleSet} {first : Block} {rest : List Block} {flags : ScanFlags}
  {timeout : Nanoseconds} {clock : Clock} {activity : Activity} {slot : Nat} {slots : Slots}
  (acquired : activity.slots.acquire? = some (slot, slots))
include acquired

theorem run_eq_deliver {result : EStateM.Result Error Context Unit}
    (gathered : gather rules (first :: rest)
      (.new rules slot flags (UInt64.ofNat first.data.size) timeout clock) = result)
    (listener : Listener σ) (memory : σ) :
    run rules (first :: rest) flags timeout clock listener (activity, memory) =
      deliver (first :: rest) (told rules result) (charged activity result) listener
        (activity, memory) := by
  rw [run, withSlot_eq, deliver, withSlot_eq, acquired]
  dsimp only
  rw [report, gathered]
  cases result with
  | error error after => rfl
  | ok _ after =>
      have recorded : recordProfile after { activity with slots } =
          { activity with slots, counters := (recordProfile after activity).counters } := by
        unfold recordProfile
        split
        · rfl
        · rfl
      exact congrArg (fun begun : Activity =>
        let used := announce listener (verdicts rules after) (begun, memory)
        (used.1, ({ used.2.1 with slots := used.2.1.slots.release slot }, used.2.2))) recorded

theorem deliver_error (error : Error) (counters : Counters) (listener : Listener σ) (memory : σ) :
    deliver (first :: rest) (.error error) counters listener (activity, memory) =
      (.error error, (activity, memory)) := by
  have released := Slots.release_of_acquire? acquired
  rw [deliver, withSlot_eq, acquired]
  change ((.error error : Except Error Unit),
    (({ activity with slots := slots.release slot } : Activity), memory)) = _
  rw [released]

theorem tellsTheSame_of_error {error : Error} {after : Context} (other : error ≠ .timeout)
    (failed : gather rules (first :: rest)
      (.new rules slot flags (UInt64.ofNat first.data.size) timeout clock) = .error error after) :
    TellsTheSame rules (first :: rest) flags timeout clock activity := by
  have same (clock' : Clock) (σ : Type) (listener : Listener σ) (memory : σ) :
      run rules (first :: rest) flags 0 clock' listener (activity, memory) =
        deliver (first :: rest) (.error error) activity.counters listener (activity, memory) := by
    have tracks := gather_untimed rules (first :: rest) slot flags (UInt64.ofNat first.data.size)
      timeout clock clock'
    rw [failed] at tracks
    obtain ⟨after', failed'⟩ := tracks.same_error fun excused => other excused.1
    exact run_eq_deliver acquired failed' listener memory
  refine ⟨.error error, activity.counters, ?_, ?_, clock, ?_⟩
  · exact fun σ listener memory => run_eq_deliver acquired failed listener memory
  · exact fun clock' => ⟨activity.counters, fun _ => rfl, same clock'⟩
  · intro σ listener memory
    rw [same, run_eq_deliver acquired failed]
    rfl

theorem tellsTheSame_of_ok {after : Context}
    (gathered : gather rules (first :: rest)
      (.new rules slot flags (UInt64.ofNat first.data.size) timeout clock) = .ok () after) :
    TellsTheSame rules (first :: rest) flags timeout clock activity := by
  refine ⟨.ok (verdicts rules after), (recordProfile after activity).counters, ?_, ?_, ?_⟩
  · exact fun σ listener memory => run_eq_deliver acquired gathered listener memory
  · intro clock'
    have tracks := gather_untimed rules (first :: rest) slot flags (UInt64.ofNat first.data.size)
      timeout clock clock'
    obtain ⟨_, _, gathered', isFlags, times, rfl⟩ := tracks.leads () after gathered
    refine ⟨(recordProfile (after.retimed times) activity).counters, ?_, ?_⟩
    · intro plain
      rw [← isFlags] at plain
      rw [recordProfile, recordProfile, plain,
        show (after.retimed times).flags.profile = false from plain]
      rfl
    · exact fun σ listener memory => run_eq_deliver acquired gathered' listener memory
  · obtain ⟨again, replayed⟩ := exists_clock_gather rules (first :: rest) slot flags
      (UInt64.ofNat first.data.size) timeout clock
    obtain ⟨_, _, gathered', _, rfl⟩ := replayed.leads () after gathered
    refine ⟨again, fun σ listener memory => ?_⟩
    rw [run_eq_deliver acquired gathered', run_eq_deliver acquired gathered]
    rfl

end

theorem tellsTheSame_of_full {activity : Activity} (full : activity.slots.acquire? = none)
    (rules : RuleSet) (first : Block) (rest : List Block) (flags : ScanFlags) (timeout : Nanoseconds)
    (clock : Clock) : TellsTheSame rules (first :: rest) flags timeout clock activity := by
  have same (timeout : Nanoseconds) (clock : Clock) (σ : Type) (listener : Listener σ) (memory : σ) :
      run rules (first :: rest) flags timeout clock listener (activity, memory) =
        deliver (first :: rest) (.ok []) activity.counters listener (activity, memory) := by
    rw [run, withSlot_eq, deliver, withSlot_eq, full]
  refine ⟨.ok [], activity.counters, same timeout clock, ?_, clock, ?_⟩
  · exact fun clock' => ⟨activity.counters, fun _ => rfl, same 0 clock'⟩
  · intro σ listener memory
    rw [same, same]

/-- A scan with a time limit stops because it is late: then it has told its listener nothing and leaves
all counters as they are. Or it finds and tells what it would find and tell without a time limit. -/
theorem run_timed (rules : RuleSet) (blocks : List Block) (flags : ScanFlags)
    (timeout : Nanoseconds) (clock : Clock) (activity : Activity) :
    (Late timeout clock (clock.reading (clock.looked + 1)) ∧
      ∀ (σ : Type) (listener : Listener σ) (memory : σ),
        run rules blocks flags timeout clock listener (activity, memory) =
          (.error .timeout, (activity, memory))) ∨
      TellsTheSame rules blocks flags timeout clock activity ∧
        FindsTheSame rules blocks flags timeout clock := by
  rw [and_iff_left (findsTheSame rules blocks flags timeout clock)]
  cases blocks with
  | nil =>
      exact .inr ⟨.ok [], activity.counters, fun _ _ _ => rfl,
        fun _ => ⟨activity.counters, fun _ => rfl, fun _ _ _ => rfl⟩, clock, fun _ _ _ => rfl⟩
  | cons first rest =>
      cases acquired : activity.slots.acquire? with
      | none => exact .inr (tellsTheSame_of_full acquired rules first rest flags timeout clock)
      | some taken =>
          cases ended : gather rules (first :: rest)
              (.new rules taken.1 flags (UInt64.ofNat first.data.size) timeout clock) with
          | ok _ after => exact .inr (tellsTheSame_of_ok acquired ended)
          | error error after =>
              by_cases isTimeout : error = .timeout
              · subst isTimeout
                refine .inl ⟨?_, fun σ listener memory => ?_⟩
                · have tracks := gather_untimed rules (first :: rest) taken.1 flags
                    (UInt64.ofNat first.data.size) timeout clock clock
                  rw [ended] at tracks
                  exact tracks.excused_of_timeout.2
                · rw [run_eq_deliver acquired ended]
                  exact deliver_error acquired _ _ _ _
              · exact .inr (tellsTheSame_of_error acquired isTimeout ended)

end Scan

end ByteScan
