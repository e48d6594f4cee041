import ByteScan.Proofs.Scan.Matches
import ByteScan.Proofs.Scan.Walking
import ByteScan.Scan.Run

/-!
# What scanning blocks keeps true

Scanning is looking at one candidate after another, with looks at the clock in between. What the look
at a candidate keeps true, a whole scan keeps true: `Keeps.scanBlocksBy`. The scan is one that keeps
the set of places for some strings, of which `scanBlocks` is one.
-/

namespace ByteScan

def Context.looked (context : Context) : Context := { context with clock := context.clock.look.2 }

def Context.charged (context : Context) (string : Nat) (begun : Nanoseconds) : Context :=
  context.looked.addStringTime string (context.clock.look.1 - begun)

namespace Scan

section

variable (remembers : Nat → Bool)

def isKnownBy (context : Context) (string : Nat) (block : Block) (offset : Nat) : Bool :=
  if remembers string then context.isRecorded string block.base offset
  else
    match context.lastMatch? string with
    | some last => last.base == block.base && last.offset == offset
    | none => false

def rememberBy (string : Nat) (block : Block) (offset : Nat) (context : Context) : Context :=
  if remembers string then context.markRecorded string block.base offset else context

def confirmBy (rules : RuleSet) (number : Nat) (block : Block) (offset : Nat) : ScanM Unit :=
  fun context =>
    match rules.strings[number]? with
    | none => .error (.corrupt (.unknownString number)) context
    | some string =>
      if isSettled context number || isKnownBy remembers context number block offset then
        .ok () context
      else
        match string.matchLength? block.data offset with
        | none => .ok () context
        | some length =>
          Context.addMatch number (.ofBlock block offset length)
            (rememberBy remembers number block offset context)

def verifyBy (rules : RuleSet) (string : Nat) (block : Block) (offset : Nat) : ScanM Unit :=
  fun context =>
    if context.flags.profile then
      match confirmBy remembers rules string block offset context.looked with
      | .ok () after => .ok () (after.charged string context.clock.look.1)
      | .error error after => .error error (after.charged string context.clock.look.1)
    else confirmBy remembers rules string block offset context

def confirmAllBy (rules : RuleSet) (block : Block) (position : Nat) : List Candidate → ScanM Nat
  | [] => pure 0
  | candidate :: candidates => do
    let backtrack := candidate.backtrack.toNat
    if backtrack ≤ position then
      verifyBy remembers rules candidate.string block (position - backtrack)
      let count ← confirmAllBy rules block position candidates
      pure (count + 1)
    else confirmAllBy rules block position candidates

def walkBy (rules : RuleSet) (block : Block) : Nat → Nat → Nat → Nat → ScanM Nat
  | 0, position, state, count => do
    let more ← confirmAllBy remembers rules block position (rules.automaton.candidatesAt state)
    pure (count + more)
  | left + 1, position, state, count => do
    if position % deadlineStride = 0 then Context.checkDeadline
    let more ← confirmAllBy remembers rules block position (rules.automaton.candidatesAt state)
    let next := rules.automaton.step state (byteAt block.data position)
    walkBy rules block left (position + 1) next (count + more)

/-- Scans blocks and keeps the set of places for the strings that `remembers` holds of. -/
def scanBlocksBy (rules : RuleSet) : List Block → ScanM Unit
  | [] => pure ()
  | block :: blocks => do
    modify (detectEntryPoint block)
    discard (walkBy remembers rules block block.data.size 0 Automaton.root 0)
    scanBlocksBy rules blocks

end

/-! ## Scanning keeps the set where distances differ -/

section

variable (rules : RuleSet)

theorem verifyBy_mixed : verifyBy rules.hasMixedBacktrack rules = verify rules := rfl

theorem confirmAllBy_mixed (block : Block) (position : Nat) (candidates : List Candidate) :
    confirmAllBy rules.hasMixedBacktrack rules block position candidates =
      confirmAll rules block position candidates := by
  induction candidates with
  | nil => rfl
  | cons candidate candidates ih => rw [confirmAllBy, confirmAll, ih, verifyBy_mixed]

theorem walkBy_mixed (block : Block) (left position state count : Nat) :
    walkBy rules.hasMixedBacktrack rules block left position state count =
      walk rules block left position state count := by
  induction left generalizing position state count with
  | zero => simp only [walkBy, walk, confirmAllBy_mixed, confirmState]
  | succ left ih => simp only [walkBy, walk, confirmAllBy_mixed, confirmState, ih]

theorem scanBlocksBy_mixed (blocks : List Block) :
    scanBlocksBy rules.hasMixedBacktrack rules blocks = scanBlocks rules blocks := by
  induction blocks with
  | nil => rfl
  | cons block blocks ih => rw [scanBlocksBy, scanBlocks, ih, walkBy_mixed, scanBlock]

end

/-! ## From one candidate to all blocks -/

/-- Looking at one candidate keeps the state good, or fails with an error and a state that are bad. So
does looking at the clock, and where a program in a block begins does not matter. -/
structure Keeps (remembers : Nat → Bool) (rules : RuleSet) (allowed : Block → Prop)
    (good : Context → Prop) (bad : Error → Context → Prop) : Prop where
  confirm : ∀ {block : Block} {candidate : Candidate} {context : Context} (offset : Nat),
    allowed block → candidate ∈ rules.automaton.candidates → good context →
      Outcome (fun _ => good) bad
        (confirmBy remembers rules candidate.string block offset context)
  looked : ∀ {context : Context}, good context → good context.looked
  charged : ∀ {context : Context} (string : Nat) (begun : Nanoseconds), good context →
    good (context.charged string begun)
  chargedBad : ∀ {error : Error} {context : Context} (string : Nat) (begun : Nanoseconds),
    bad error context → bad error (context.charged string begun)
  late : ∀ {context : Context}, good context → bad .timeout context
  entered : ∀ {context : Context} (entryPoint : Option UInt64), good context →
    good { context with entryPoint }

theorem detectEntryPoint_rest (block : Block) (context : Context) :
    ∃ entryPoint, detectEntryPoint block context = { context with entryPoint } := by
  unfold detectEntryPoint
  split
  · exact ⟨context.entryPoint, rfl⟩
  · split
    · exact ⟨_, rfl⟩
    · exact ⟨context.entryPoint, rfl⟩

theorem scanBlocks_cons {rules : RuleSet} {block : Block} {blocks : List Block}
    {context after : Context} {count : Nat}
    (ended : scanBlock rules block (detectEntryPoint block context) = .ok count after) :
    scanBlocks rules (block :: blocks) context = scanBlocks rules blocks after := by
  change EStateM.bind (EStateM.map (fun _ => ()) (scanBlock rules block))
    (fun _ => scanBlocks rules blocks) (detectEntryPoint block context) = _
  rw [EStateM.bind, EStateM.map, ended]

namespace Keeps

variable {remembers : Nat → Bool} {rules : RuleSet} {allowed : Block → Prop}
  {good : Context → Prop} {bad : Error → Context → Prop}
  (keeps : Keeps remembers rules allowed good bad) {block : Block} {context : Context}
include keeps

theorem detectEntryPoint (isGood : good context) : good (detectEntryPoint block context) := by
  obtain ⟨entryPoint, same⟩ := detectEntryPoint_rest block context
  rw [same]
  exact keeps.entered entryPoint isGood

theorem checkDeadline (isGood : good context) :
    Outcome (fun _ => good) bad (Context.checkDeadline context) := by
  have looked := keeps.looked isGood
  unfold Context.checkDeadline
  split
  · exact isGood
  · dsimp only
    split
    · exact keeps.late looked
    · exact looked

section

variable (permitted : allowed block)
include permitted

theorem verifyBy {candidate : Candidate} (listed : candidate ∈ rules.automaton.candidates)
    (isGood : good context) (offset : Nat) :
    Outcome (fun _ => good) bad
      (verifyBy remembers rules candidate.string block offset context) := by
  unfold Scan.verifyBy
  split
  · have confirmed := keeps.confirm offset permitted listed (keeps.looked isGood)
    cases ended : confirmBy remembers rules candidate.string block offset context.looked with
    | ok _ after =>
        rw [ended] at confirmed
        exact keeps.charged candidate.string _ confirmed
    | error error after =>
        rw [ended] at confirmed
        exact keeps.chargedBad candidate.string _ confirmed
  · exact keeps.confirm offset permitted listed isGood

theorem confirmAllBy {candidates : List Candidate}
    (listed : ∀ candidate ∈ candidates, candidate ∈ rules.automaton.candidates)
    (isGood : good context) (position : Nat) :
    Outcome (fun _ => good) bad
      (confirmAllBy remembers rules block position candidates context) := by
  induction candidates generalizing context with
  | nil => exact isGood
  | cons candidate candidates ih =>
      obtain ⟨isListed, restListed⟩ := List.forall_mem_cons.mp listed
      rw [Scan.confirmAllBy]
      split
      · apply (keeps.verifyBy permitted isListed isGood _).bind
        intro _ middle isGood'
        apply (ih restListed isGood').bind
        intro count after isGood''
        exact isGood''
      · exact ih restListed isGood

theorem walkBy (isGood : good context) (left position state count : Nat) :
    Outcome (fun _ => good) bad
      (walkBy remembers rules block left position state count context) := by
  induction left generalizing position state count context with
  | zero =>
      rw [Scan.walkBy]
      apply (keeps.confirmAllBy permitted (fun _ => Automaton.mem_of_mem_candidatesAt) isGood
        position).bind
      intro more after isGood'
      exact isGood'
  | succ left ih =>
      rw [Scan.walkBy]
      have next {context : Context} (isGood : good context) :
          Outcome (fun _ => good) bad
            ((Scan.confirmAllBy remembers rules block position
                (rules.automaton.candidatesAt state) >>= fun more =>
              Scan.walkBy remembers rules block left (position + 1)
                (rules.automaton.step state (byteAt block.data position)) (count + more))
              context) := by
        apply (keeps.confirmAllBy permitted (fun _ => Automaton.mem_of_mem_candidatesAt) isGood
          position).bind
        intro more after isGood'
        exact ih isGood' _ _ _
      split
      · apply (keeps.checkDeadline isGood).bind
        intro _ after isGood'
        exact next isGood'
      · exact next isGood

end

/-- What looking at one candidate keeps true, scanning all blocks keeps true. -/
theorem scanBlocksBy (blocks : List Block) (permitted : ∀ block ∈ blocks, allowed block)
    (isGood : good context) :
    Outcome (fun _ => good) bad (scanBlocksBy remembers rules blocks context) := by
  induction blocks generalizing context with
  | nil => exact isGood
  | cons block blocks ih =>
      obtain ⟨isPermitted, restPermitted⟩ := List.forall_mem_cons.mp permitted
      have ended : Outcome (fun _ => good) bad
          (discard (Scan.walkBy remembers rules block block.data.size 0 Automaton.root 0)
            (Scan.detectEntryPoint block context)) := by
        apply (keeps.walkBy isPermitted (keeps.detectEntryPoint isGood) _ _ _ _).bind
        intro _ after isGood'
        exact isGood'
      exact ended.bind fun _ after isGood' => ih restPermitted isGood'

end Keeps

/-! ## What scanning leaves alone -/

/-- Scanning blocks leaves alone how the scan is to be done, external variables and verdicts. -/
structure Untouched (earlier context : Context) : Prop where
  flags : context.flags = earlier.flags
  fileSize : context.fileSize = earlier.fileSize
  timeout : context.timeout = earlier.timeout
  objects : context.objects = earlier.objects
  matched : context.matchedRules = earlier.matchedRules
  unsatisfied : context.unsatisfiedSpaces = earlier.unsatisfiedSpaces

variable {rules : RuleSet} {earlier context : Context}

theorem Untouched.addMatch (untouched : Untouched earlier context) (string : Nat) (found : Match) :
    Outcome (fun _ => Untouched earlier) (fun _ _ => True)
      (Context.addMatch string found context) := by
  rw [Context.addMatch]
  split
  · split
    · exact { untouched with }
    · exact { untouched with }
  · trivial

theorem Untouched.confirmBy {remembers : Nat → Bool} (untouched : Untouched earlier context)
    (string : Nat) (block : Block) (offset : Nat) :
    Outcome (fun _ => Untouched earlier) (fun _ _ => True)
      (confirmBy remembers rules string block offset context) := by
  unfold Scan.confirmBy
  split
  · trivial
  · split
    · exact untouched
    · split
      · exact untouched
      · refine Untouched.addMatch ?_ string _
        unfold rememberBy
        split
        · exact { untouched with }
        · exact untouched

theorem keeps_untouched (remembers : Nat → Bool) (rules : RuleSet) (earlier : Context) :
    Keeps remembers rules (fun _ => True) (Untouched earlier) (fun _ _ => True) where
  confirm := fun offset _ _ untouched => untouched.confirmBy _ _ offset
  looked := fun untouched => { untouched with }
  charged := fun _ _ untouched => { untouched with }
  chargedBad := fun _ _ _ => trivial
  late := fun _ => trivial
  entered := fun _ untouched => { untouched with }

theorem untouched_of_scanBlocks {blocks : List Block} {after : Context}
    (scanned : scanBlocks rules blocks context = .ok () after) : Untouched context after := by
  have kept := (keeps_untouched rules.hasMixedBacktrack rules context).scanBlocksBy blocks
    (fun _ _ => trivial) ⟨rfl, rfl, rfl, rfl, rfl, rfl⟩
  rwa [scanBlocksBy_mixed, scanned] at kept

end Scan

end ByteScan
