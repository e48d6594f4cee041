import ByteScan.Proofs.Scan.Computing
import ByteScan.Proofs.Scan.Keeping

/-!
# Two scans side by side

Two scans of the same blocks, or two evaluations of the same code, may differ in what is asked for: time
limits, profiles, how many matches are to be recorded. One tracks the other if it gets as far and ends
in the same way, unless the other one stops for a reason that is excused. What every step keeps of a
relation between the two states, the whole scan keeps: `Steps.tally` and `Follows.evaluate`.
-/

namespace ByteScan

/-- Where the first action succeeds, so does the second, and they end in states that go together. Where
the first one fails without an excuse, which want of time alone is not, the second one fails with the
same error. -/
def Tracks (excused : Error → Prop) (goes : α → β → Context → Context → Prop) :
    EStateM.Result Error Context α → EStateM.Result Error Context β → Prop
  | .ok value first, .ok other second => goes value other first second
  | .ok _ _, .error _ _ => False
  | .error error _, .ok _ _ => excused error
  | .error error _, .error other _ => excused error ∨ error = other ∧ error ≠ .timeout

namespace Tracks

variable {excused : Error → Prop}

theorem excuse {goes : α → β → Context → Context → Prop} {error : Error} (isExcused : excused error)
    (context : Context) (second : EStateM.Result Error Context β) :
    Tracks excused goes (.error error context) second := by
  cases second with
  | ok value after => exact isExcused
  | error other after => exact .inl isExcused

theorem bind {middle : α → β → Context → Context → Prop} {goes : γ → δ → Context → Context → Prop}
    {action : ScanM α} {other : ScanM β} {next : α → ScanM γ} {following : β → ScanM δ}
    {first second : Context} (begun : Tracks excused middle (action first) (other second))
    (continued : ∀ value value' first second, middle value value' first second →
      Tracks excused goes (next value first) (following value' second)) :
    Tracks excused goes ((action >>= next) first) ((other >>= following) second) := by
  change Tracks excused goes (EStateM.bind action next first) (EStateM.bind other following second)
  rw [EStateM.bind, EStateM.bind]
  cases endedFirst : action first <;> cases endedSecond : other second <;>
    rw [endedFirst, endedSecond] at begun
  case ok.ok value after value' after' => exact continued value value' after after' begun
  case ok.error => exact begun.elim
  case error.ok => exact excuse begun _ _
  case error.error => exact begun

theorem imp {goes better : α → β → Context → Context → Prop}
    {first : EStateM.Result Error Context α} {second : EStateM.Result Error Context β}
    (tracks : Tracks excused goes first second)
    (implies : ∀ value other first second, goes value other first second →
      better value other first second) : Tracks excused better first second := by
  cases first <;> cases second
  case ok.ok => exact implies _ _ _ _ tracks
  case ok.error => exact tracks
  case error.ok => exact tracks
  case error.error => exact tracks

theorem leads {goes : α → β → Context → Context → Prop} {first : EStateM.Result Error Context α}
    {second : EStateM.Result Error Context β} (tracks : Tracks excused goes first second) :
    Leads goes first second := by
  rintro value after rfl
  cases second with
  | ok other after' => exact ⟨other, after', rfl, tracks⟩
  | error error after' => exact tracks.elim

theorem excused_of_timeout {goes : α → β → Context → Context → Prop} {first : Context}
    {second : EStateM.Result Error Context β}
    (tracks : Tracks excused goes (.error .timeout first) second) : excused .timeout := by
  cases second with
  | ok value after => exact tracks
  | error error after => exact tracks.resolve_right fun same => same.2 rfl

theorem same_error {goes : α → β → Context → Context → Prop} {error : Error} {first : Context}
    {second : EStateM.Result Error Context β} (tracks : Tracks excused goes (.error error first) second)
    (unexcused : ¬excused error) : ∃ after, second = .error error after := by
  cases second with
  | ok value after => exact absurd tracks unexcused
  | error other after => exact ⟨after, (tracks.resolve_left unexcused).1 ▸ rfl⟩

end Tracks

namespace Scan

/-! ## Blocks -/

/-- Scans blocks as `scanBlocks` does, and gives the number of candidates of each. -/
def tally (rules : RuleSet) : List Block → ScanM (List Nat)
  | [] => pure []
  | block :: blocks => do
    modify (detectEntryPoint block)
    let count ← scanBlock rules block
    let counts ← tally rules blocks
    pure (count :: counts)

theorem discard_eq (action : ScanM α) : discard action = action >>= fun _ => pure () := by
  funext context
  change EStateM.map (fun _ => ()) action context = EStateM.bind action (fun _ => pure ()) context
  rw [EStateM.map, EStateM.bind]
  cases action context with
  | ok value after => rfl
  | error error after => rfl

theorem scanBlocks_eq_tally (rules : RuleSet) (blocks : List Block) :
    scanBlocks rules blocks = discard (tally rules blocks) := by
  induction blocks with
  | nil => rfl
  | cons block blocks ih =>
      rw [scanBlocks, ih, tally]
      simp only [discard_eq, bind_assoc, pure_bind]

/-- What two scans of blocks keep of a relation between their states, step by step. Of the two times at
which they begin with a string nothing is known. -/
structure Steps (rules : RuleSet) (excused : Error → Prop) (related : Context → Context → Prop) :
    Prop where
  confirm : ∀ {first second : Context} {candidate : Candidate} (block : Block) (offset : Nat),
    related first second → candidate ∈ rules.automaton.candidates →
      Tracks excused (fun _ _ => related) (confirm rules candidate.string block offset first)
        (confirm rules candidate.string block offset second)
  deadline : ∀ {first second : Context}, related first second →
    Tracks excused (fun _ _ => related) (Context.checkDeadline first) (Context.checkDeadline second)
  looked : ∀ {first second : Context}, related first second → related first.looked second.looked
  charged : ∀ {first second : Context} (string : Nat) (begun begun' : Nanoseconds),
    related first second → related (first.charged string begun) (second.charged string begun')
  profile : ∀ {first second : Context}, related first second →
    second.flags.profile = first.flags.profile
  detected : ∀ {first second : Context} (block : Block), related first second →
    related (detectEntryPoint block first) (detectEntryPoint block second)

section

variable {rules : RuleSet} {context : Context}

theorem verify_profiled (profile : context.flags.profile = true) (string : Nat) (block : Block)
    (offset : Nat) :
    verify rules string block offset context =
      match confirm rules string block offset context.looked with
      | .ok () after => .ok () (after.charged string context.clock.look.1)
      | .error error after => .error error (after.charged string context.clock.look.1) := by
  rw [← verifyBy_mixed, verifyBy, if_pos profile]
  rfl

theorem verify_plain (plain : ¬context.flags.profile = true) (string : Nat) (block : Block)
    (offset : Nat) : verify rules string block offset context =
      confirm rules string block offset context := by
  rw [← verifyBy_mixed, verifyBy, if_neg plain]
  rfl

def walkOn (rules : RuleSet) (block : Block) (left position state count : Nat) : ScanM Nat := do
  let more ← confirmState rules block position state
  walk rules block left (position + 1) (rules.automaton.step state (byteAt block.data position))
    (count + more)

theorem walk_succ (block : Block) (left position state count : Nat) :
    walk rules block (left + 1) position state count =
      if position % deadlineStride = 0 then
        Context.checkDeadline >>= fun _ => walkOn rules block left position state count
      else walkOn rules block left position state count := rfl

end

namespace Steps

variable {rules : RuleSet} {excused : Error → Prop} {related : Context → Context → Prop}
  (steps : Steps rules excused related) {first second : Context}
include steps

theorem verify {candidate : Candidate} (block : Block) (offset : Nat) (are : related first second)
    (listed : candidate ∈ rules.automaton.candidates) :
    Tracks excused (fun _ _ => related) (verify rules candidate.string block offset first)
      (verify rules candidate.string block offset second) := by
  by_cases profile : first.flags.profile = true
  · rw [verify_profiled profile, verify_profiled ((steps.profile are).trans profile)]
    have confirmed := steps.confirm block offset (steps.looked are) listed
    revert confirmed
    cases Scan.confirm rules candidate.string block offset first.looked <;>
      cases Scan.confirm rules candidate.string block offset second.looked
    case ok.ok => exact steps.charged candidate.string _ _
    case ok.error => exact id
    case error.ok => exact id
    case error.error => exact id
  · have plain : ¬second.flags.profile = true := by rwa [steps.profile are]
    rw [verify_plain profile, verify_plain plain]
    exact steps.confirm block offset are listed

theorem confirmAll {candidates : List Candidate} (block : Block) (position : Nat)
    (are : related first second)
    (listed : ∀ candidate ∈ candidates, candidate ∈ rules.automaton.candidates) :
    Tracks excused (fun count count' first second => count' = count ∧ related first second)
      (confirmAll rules block position candidates first)
      (confirmAll rules block position candidates second) := by
  induction candidates generalizing first second with
  | nil => exact ⟨rfl, are⟩
  | cons candidate candidates ih =>
      obtain ⟨isListed, restListed⟩ := List.forall_mem_cons.mp listed
      rw [Scan.confirmAll]
      split
      · apply (steps.verify block _ are isListed).bind
        intro _ _ first second are
        apply (ih are restListed).bind
        rintro count _ first second ⟨rfl, are⟩
        exact ⟨rfl, are⟩
      · exact ih are restListed

theorem walk (block : Block) (are : related first second) (left position state count : Nat) :
    Tracks excused (fun count count' first second => count' = count ∧ related first second)
      (walk rules block left position state count first)
      (walk rules block left position state count second) := by
  induction left generalizing position state count first second with
  | zero =>
      rw [Scan.walk]
      apply (steps.confirmAll block position are fun _ => Automaton.mem_of_mem_candidatesAt).bind
      rintro more _ first second ⟨rfl, are⟩
      exact ⟨rfl, are⟩
  | succ left ih =>
      have next {first second : Context} (are : related first second) :
          Tracks excused (fun count count' first second => count' = count ∧ related first second)
            (walkOn rules block left position state count first)
            (walkOn rules block left position state count second) := by
        apply (steps.confirmAll block position are fun _ => Automaton.mem_of_mem_candidatesAt).bind
        rintro more _ first second ⟨rfl, are⟩
        exact ih are _ _ _
      rw [walk_succ]
      split
      · exact (steps.deadline are).bind fun _ _ _ _ are => next are
      · exact next are

/-- Two scans of the same blocks keep what each step keeps, and count the same candidates. -/
theorem tally (blocks : List Block) (are : related first second) :
    Tracks excused (fun counts counts' first second => counts' = counts ∧ related first second)
      (tally rules blocks first) (tally rules blocks second) := by
  induction blocks generalizing first second with
  | nil => exact ⟨rfl, are⟩
  | cons block blocks ih =>
      apply Tracks.bind (steps.walk block (steps.detected block are) _ _ _ _)
      rintro count _ first second ⟨rfl, are⟩
      apply (ih are).bind
      rintro counts _ first second ⟨rfl, are⟩
      exact ⟨rfl, are⟩

theorem scanBlocks (blocks : List Block) (are : related first second) :
    Tracks excused (fun _ _ => related) (scanBlocks rules blocks first)
      (scanBlocks rules blocks second) := by
  rw [scanBlocks_eq_tally]
  exact (steps.tally blocks are).bind fun _ _ _ _ both => both.2

end Steps

/-! ## Code -/

theorem codeError_ne_timeout (fault : CodeFault) : codeError fault ≠ .timeout := by
  intro same
  cases same

theorem valueOf_ne_timeout {rules : RuleSet} {context : Context} {stack : List Value}
    {instruction : Instruction} {error : Error}
    (failed : valueOf rules context stack instruction = .error error) : error ≠ .timeout := by
  rintro rfl
  obtain ⟨_, gives⟩ | ⟨other, -⟩ | ⟨other, -⟩ | ⟨_, -, -, other⟩ :=
    valueOf_cases rules context stack instruction
  · cases gives.symm.trans failed
  · cases other.symm.trans failed
  · cases other.symm.trans failed
  · cases other.symm.trans failed

/-- What two evaluations of the same code keep of a relation between their states, if all instructions
are allowed. -/
structure Follows (rules : RuleSet) (excused : Error → Prop) (allowed : Instruction → Prop)
    (related : Context → Context → Prop) : Prop where
  value : ∀ {first second : Context} {instruction : Instruction} (stack : List Value),
    related first second → allowed instruction →
      valueOf rules second stack instruction = valueOf rules first stack instruction
  verdict : ∀ {first second : Context} (number : Nat) (value : Value), related first second →
    related (recordVerdict rules number value first) (recordVerdict rules number value second)
  deadline : ∀ {first second : Context}, related first second →
    Tracks excused (fun _ _ => related) (Context.checkDeadline first) (Context.checkDeadline second)
  looked : ∀ {first second : Context}, related first second → related first.looked second.looked
  charged : ∀ {first second : Context} (rule : Nat) (time time' : Nanoseconds),
    related first second → related (first.addRuleTime rule time) (second.addRuleTime rule time')
  profile : ∀ {first second : Context}, related first second →
    second.flags.profile = first.flags.profile

namespace Follows

variable {rules : RuleSet} {excused : Error → Prop} {allowed : Instruction → Prop}
  {related : Context → Context → Prop} (follows : Follows rules excused allowed related)
  {first second : Context}

/-- Two machines that differ in the time only. -/
structure Beside (first second : MachineState) : Prop where
  place : second.place = first.place
  stack : second.stack = first.stack
  begun : second.begun = first.begun
  timed : second.ruleBegun.isSome = first.ruleBegun.isSome

include follows

theorem chargeRule (are : related first second) (number : Nat) {timer timer' : Option Nanoseconds}
    (timed : timer'.isSome = timer.isSome) :
    Tracks excused (fun value other first second => other.isSome = value.isSome ∧ related first second)
      (chargeRule number timer first) (chargeRule number timer' second) := by
  cases timer <;> cases timer'
  case none.none => exact ⟨rfl, are⟩
  case none.some => cases timed
  case some.none => cases timed
  case some.some => exact ⟨rfl, follows.charged number _ _ (follows.looked are)⟩

theorem followInstruction (are : related first second) {machine other : MachineState}
    (beside : Beside machine other) {instruction : Instruction} (isAllowed : allowed instruction)
    (place : CodePlace) :
    Tracks excused (fun next next' first second =>
        Option.Rel (fun next next' => (next.place = place ∧ instruction ≠ .halt) ∧ Beside next next')
          next next' ∧ related first second)
      (followInstruction rules machine instruction place first)
      (followInstruction rules other instruction place second) := by
  cases puts : putsValue instruction with
  | true =>
      rw [followInstruction_puts puts, followInstruction_puts puts, beside.stack,
        follows.value _ are isAllowed]
      cases valued : valueOf rules first machine.stack instruction with
      | error error => exact .inr ⟨rfl, valueOf_ne_timeout valued⟩
      | ok result =>
          dsimp only
          split
          · exact .inr ⟨rfl, codeError_ne_timeout _⟩
          · refine ⟨.some ⟨⟨rfl, ?_⟩, rfl, rfl, beside.begun, beside.timed⟩, are⟩
            rintro rfl
            cases puts
  | false =>
      cases instruction with
      | halt => exact ⟨.none, are⟩
      | verdict number =>
          rw [Scan.followInstruction, Scan.followInstruction, beside.stack]
          cases machine.stack with
          | nil => exact .inr ⟨rfl, codeError_ne_timeout _⟩
          | cons top stack =>
              apply (follows.chargeRule (follows.verdict number.toNat top are) number.toNat
                beside.timed).bind
              rintro timer timer' first second ⟨timed, are⟩
              refine ⟨.some ⟨⟨rfl, ?_⟩, rfl, rfl, beside.begun, timed⟩, are⟩
              intro isHalt
              cases isHalt
      | _ => cases puts

theorem follow (are : related first second) {left : Nat} {machine other : MachineState}
    (beside : Beside machine other)
    (all : ∀ instruction ∈ machine.place.instructions rules.strings.size rules.rules.size left,
      allowed instruction) :
    Tracks excused (fun _ _ => related) (follow rules left machine first)
      (follow rules left other second) := by
  induction left generalizing machine other first second with
  | zero =>
      refine .inr ⟨?_, codeError_ne_timeout _⟩
      rw [beside.place]
  | succ left ih =>
      have next {first second : Context} (are : related first second) : Tracks excused
          (fun _ _ => related) (followTaken rules left machine first)
          (followTaken rules left other second) := by
        rw [followTaken, followTaken, beside.place, beside.begun]
        cases taken : machine.place.takeInstruction rules.strings.size rules.rules.size with
        | error fault => exact .inr ⟨rfl, codeError_ne_timeout fault⟩
        | ok result =>
            obtain ⟨instruction, place⟩ := result
            rw [CodePlace.instructions_succ taken left] at all
            obtain ⟨isAllowed, restAllowed⟩ := List.forall_mem_cons.mp all
            have counted : Beside { machine with begun := machine.begun + 1 }
              { other with begun := machine.begun + 1 } := { beside with begun := rfl }
            apply (follows.followInstruction are counted isAllowed place).bind
            rintro _ _ first second ⟨both, are⟩
            cases both with
            | none => exact are
            | some both =>
                obtain ⟨⟨rfl, isOther⟩, beside⟩ := both
                rw [if_neg isOther] at restAllowed
                exact ih are beside restAllowed
      rw [follow_succ, follow_succ, beside.begun]
      split
      · exact (follows.deadline are).bind fun _ _ _ _ are => next are
      · exact next are

/-- Two evaluations keep what each instruction keeps. -/
theorem evaluate (are : related first second)
    (all : ∀ instruction ∈ rules.instructions, allowed instruction) :
    Tracks excused (fun _ _ => related) (evaluate rules first) (evaluate rules second) := by
  have timer : Tracks excused
      (fun timer timer' first second => timer'.isSome = timer.isSome ∧ related first second)
      (beginning first first) (beginning second second) := by
    rw [beginning, beginning, follows.profile are]
    split
    · exact ⟨rfl, follows.looked are⟩
    · exact ⟨rfl, are⟩
  rw [evaluate_eq, evaluate_eq]
  apply timer.bind
  rintro timer timer' first second ⟨timed, are⟩
  exact follows.follow are ⟨rfl, rfl, rfl, timed⟩ all

end Follows

end Scan

end ByteScan
