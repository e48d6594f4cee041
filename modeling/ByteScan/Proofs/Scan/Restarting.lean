import ByteScan.Proofs.Scan.Announcing
import ByteScan.Proofs.Scan.Tidying

/-!
# Starting again with a cleaned context

A context can be used for one scan after another if it is cleaned in between. Whatever has been asked
of it, with whatever result, a store of chained lists keeps the same matches and notes (`Backed.act`).
A cleaned context is therefore that of a scan which has just begun, so that all further requests give
what they give there: `Context.clean_restarts`.
-/

namespace ByteScan

/-- What can be asked of the state of a scan of a rule set. -/
inductive Request (rules : RuleSet) where
  | operate (operation : Operation rules.strings.size)
  | verify (string : Nat) (block : Block) (offset : Nat)
  | scan (block : Block)
  | evaluate
  | bind (externals : List External)
  | enter (entryPoint : Option UInt64)
  | startClock
  | checkDeadline

/-- After some events a store keeps the same matches and notes as a context. -/
def Backed (rules : RuleSet) (context : Context) : Prop :=
  ∃ events ledger,
    Mirrored rules.strings.size (Store.afterAll rules events, ledger) (context, ledger)

/-- An action leaves a state of a kind, whether it succeeds or not. -/
def Retains (good : Context → Prop) : EStateM.Result Error Context α → Prop :=
  Outcome (fun _ => good) fun _ => good

theorem retains_iff {good : Context → Prop} (result : EStateM.Result Error Context α) :
    Retains good result ↔ good (stateAfter result) := by
  cases result <;> exact Iff.rfl

theorem Retains.bind {good : Context → Prop} {action : ScanM α} {next : α → ScanM β}
    {context : Context} (first : Retains good (action context))
    (second : ∀ value after, good after → Retains good (next value after)) :
    Retains good ((action >>= next) context) :=
  Outcome.bind first second

/-! ## What following code keeps true -/

namespace Scan

/-- Each thing that following code does to a context keeps it good. -/
structure Minds (rules : RuleSet) (good : Context → Prop) : Prop where
  looked : ∀ {context : Context}, good context → good context.looked
  verdict : ∀ {context : Context} (number : Nat) (value : Value), good context →
    good (recordVerdict rules number value context)
  charged : ∀ {context : Context} (rule : Nat) (time : Nanoseconds), good context →
    good (context.addRuleTime rule time)

theorem retains_checkDeadline {good : Context → Prop} {context : Context}
    (looked : good context.looked) (isGood : good context) :
    Retains good (Context.checkDeadline context) := by
  unfold Context.checkDeadline
  split
  · exact isGood
  · dsimp only
    split
    · exact looked
    · exact looked

namespace Minds

variable {rules : RuleSet} {good : Context → Prop} (minds : Minds rules good) {context : Context}
include minds

theorem chargeRule (isGood : good context) (number : Nat) (timer : Option Nanoseconds) :
    Retains good (chargeRule number timer context) := by
  cases timer with
  | none => exact isGood
  | some begun => exact minds.charged number _ (minds.looked isGood)

theorem followInstruction (isGood : good context) (machine : MachineState)
    (instruction : Instruction) (place : CodePlace) :
    Retains good (followInstruction rules machine instruction place context) := by
  cases puts : putsValue instruction with
  | true =>
      rw [followInstruction_puts puts]
      cases valueOf rules context machine.stack instruction with
      | error error => exact isGood
      | ok result =>
          dsimp only
          split
          · exact isGood
          · exact isGood
  | false =>
      cases instruction with
      | halt => exact isGood
      | verdict number =>
          rw [Scan.followInstruction]
          cases machine.stack with
          | nil => exact isGood
          | cons top stack =>
              apply Retains.bind (minds.chargeRule (minds.verdict number.toNat top isGood)
                number.toNat machine.ruleBegun)
              intro _ after isGood
              exact isGood
      | _ => cases puts

theorem follow (isGood : good context) (left : Nat) (machine : MachineState) :
    Retains good (follow rules left machine context) := by
  induction left generalizing machine context with
  | zero => exact isGood
  | succ left ih =>
      have next {context : Context} (isGood : good context) :
          Retains good (followTaken rules left machine context) := by
        rw [followTaken]
        cases machine.place.takeInstruction rules.strings.size rules.rules.size with
        | error fault => exact isGood
        | ok taken =>
            apply Retains.bind (minds.followInstruction isGood _ taken.1 taken.2)
            intro following after isGood
            cases following with
            | none => exact isGood
            | some machine => exact ih isGood machine
      rw [follow_succ]
      split
      · exact (retains_checkDeadline (minds.looked isGood) isGood).bind fun _ _ => next
      · exact next isGood

/-- What each thing that following code does keeps true, evaluating conditions keeps true. -/
theorem evaluate (isGood : good context) : Retains good (evaluate rules context) := by
  have timer : Retains good (beginning context context) := by
    rw [beginning]
    split
    · exact minds.looked isGood
    · exact isGood
  rw [evaluate_eq]
  exact timer.bind fun _ _ isGood => minds.follow isGood _ _

end Minds

end Scan

/-! ## Stores behind contexts -/

theorem fst_run (perform : Operation strings → EStateM Error σ Unit) (before : σ × Ledger)
    (operation : Operation strings) :
    (Operation.run perform before operation).1 = stateAfter (perform operation before.1) := by
  rw [Operation.run]
  split
  · rename_i done
    rw [done, stateAfter]
  · rename_i failed
    rw [failed, stateAfter]

section

variable {rules : RuleSet} {context : Context}

theorem backed_new (rules : RuleSet) (slot : Nat) (flags : ScanFlags) (fileSize : UInt64)
    (timeout : Nanoseconds) (clock : Clock) :
    Backed rules (.new rules slot flags fileSize timeout clock) :=
  ⟨[], [], mirrored_start rules slot flags fileSize timeout clock⟩

namespace Backed

theorem of_same (backed : Backed rules context) {other : Context}
    (lists : other.lists = context.lists) (registry : other.registry = context.registry)
    (total : other.total = context.total) (notes : other.notes = context.notes) :
    Backed rules other := by
  obtain ⟨events, ledger, mirrored⟩ := backed
  have kept := mirrored.context
  refine ⟨events, ledger, rfl, mirrored.store, ⟨?_, ?_, total.trans kept.total⟩,
    notes.trans mirrored.notes, mirrored.chains, ?_⟩
  · intro string
    rw [← kept.lists, Context.matchesOf, lists, Context.matchesOf]
  · rw [← kept.registry, Context.matchingStrings, registry, Context.matchingStrings]
  · exact (congrArg Array.size lists).trans mirrored.lists

variable (backed : Backed rules context)
include backed

theorem perform (operation : Operation rules.strings.size) :
    Backed rules (stateAfter (Context.perform operation context)) := by
  obtain ⟨events, ledger, mirrored⟩ := backed
  have stepped := mirrored.step operation
  have left : Store.afterAll rules (events ++ [.operation operation]) =
      (Operation.run Store.perform (Store.afterAll rules events, ledger) operation).1 := by
    rw [fst_run, Store.afterAll, List.foldl_append]
    rfl
  have right : Operation.run Context.perform (context, ledger) operation =
      (stateAfter (Context.perform operation context),
        (Operation.run Store.perform (Store.afterAll rules events, ledger) operation).2) :=
    Prod.ext (fst_run ..) stepped.ledger
  refine ⟨events ++ [.operation operation],
    (Operation.run Store.perform (Store.afterAll rules events, ledger) operation).2, ?_⟩
  rw [left, ← right]
  exact stepped

theorem looked : Backed rules context.looked := backed.of_same rfl rfl rfl rfl

theorem addMatch {string : Nat} (known : string < rules.strings.size) (found : Match) :
    Backed rules (stateAfter (Context.addMatch string found context)) :=
  backed.perform (.add ⟨string, known⟩ found)

theorem rememberBy (remembers : Nat → Bool) (string : Nat) (block : Block) (offset : Nat) :
    Backed rules (Scan.rememberBy remembers string block offset context) := by
  rw [Scan.rememberBy]
  split
  · exact backed.perform (.mark string block.base offset)
  · exact backed

theorem confirmBy (remembers : Nat → Bool) (string : Nat) (block : Block) (offset : Nat) :
    Retains (Backed rules) (Scan.confirmBy remembers rules string block offset context) := by
  rw [Scan.confirmBy]
  split
  · exact backed
  · rename_i isString
    split
    · exact backed
    · split
      · exact backed
      · have known := (Array.getElem?_eq_some_iff.mp isString).1
        exact (retains_iff _).mpr ((backed.rememberBy remembers string block offset).addMatch known _)

theorem charged (string : Nat) (begun : Nanoseconds) : Backed rules (context.charged string begun) :=
  backed.looked.perform (.stringTime string _)

theorem verify (string : Nat) (block : Block) (offset : Nat) :
    Retains (Backed rules) (Scan.verify rules string block offset context) := by
  rw [← Scan.verifyBy_mixed, Scan.verifyBy]
  split
  · have confirmed := backed.looked.confirmBy rules.hasMixedBacktrack string block offset
    rw [retains_iff] at confirmed
    split
    · rename_i ended
      rw [ended] at confirmed
      exact confirmed.charged string _
    · rename_i ended
      rw [ended] at confirmed
      exact confirmed.charged string _
  · exact backed.confirmBy rules.hasMixedBacktrack string block offset

end Backed

theorem keeps_backed (remembers : Nat → Bool) (rules : RuleSet) :
    Scan.Keeps remembers rules (fun _ => True) (Backed rules) (fun _ => Backed rules) where
  confirm := fun {block candidate _} offset _ _ backed =>
    backed.confirmBy remembers candidate.string block offset
  looked := Backed.looked
  charged := fun string begun backed => backed.charged string begun
  chargedBad := fun string begun backed => backed.charged string begun
  late := id
  entered := fun _ backed => backed.of_same rfl rfl rfl rfl

theorem minds_backed (rules : RuleSet) : Scan.Minds rules (Backed rules) where
  looked := Backed.looked
  verdict := by
    intro context number value backed
    rw [Scan.recordVerdict]
    split
    · exact backed.perform (.matched number)
    · split
      · split
        · exact backed.perform (.unsatisfied _)
        · exact backed
      · exact backed
  charged := fun rule time backed => backed.perform (.ruleTime rule time)

theorem Backed.bindExternals (backed : Backed rules context) (externals : List External) :
    Retains (Backed rules) (Context.bindExternals externals context) := by
  induction externals generalizing context with
  | nil => exact backed
  | cons external externals ih =>
      rw [Scan.bindExternals_cons]
      dsimp only
      split
      · exact backed.of_same rfl rfl rfl rfl
      · exact ih (backed.of_same rfl rfl rfl rfl)

/-! ## Requests -/

namespace Request

def act : Request rules → ScanM Nat
  | .operate operation => Context.perform operation *> pure 0
  | .verify string block offset => Scan.verify rules string block offset *> pure 0
  | .scan block => Scan.scanBlock rules block
  | .evaluate => Scan.evaluate rules *> pure 0
  | .bind externals => Context.bindExternals externals *> pure 0
  | .enter entryPoint => modify (·.setEntryPoint entryPoint) *> pure 0
  | .startClock => Context.startClock *> pure 0
  | .checkDeadline => Context.checkDeadline *> pure 0

/-- The state after some requests. One that fails leaves a state as well. -/
def leave (requests : List (Request rules)) (context : Context) : Context :=
  requests.foldl (fun context request => stateAfter (request.act context)) context

def trace : List (Request rules) → Context → List (EStateM.Result Error Context Nat)
  | [], _ => []
  | request :: requests, context =>
    let result := request.act context
    result :: trace requests (stateAfter result)

end Request

theorem Backed.act (backed : Backed rules context) (request : Request rules) :
    Retains (Backed rules) (request.act context) := by
  have silent {action : ScanM Unit} (retains : Retains (Backed rules) (action context)) :
      Retains (Backed rules) ((action *> pure 0 : ScanM Nat) context) :=
    retains.bind fun _ _ backed => backed
  cases request with
  | operate operation => exact silent ((retains_iff _).mpr (backed.perform operation))
  | verify string block offset => exact silent (backed.verify string block offset)
  | scan block =>
      rw [Request.act, Scan.scanBlock, ← Scan.walkBy_mixed]
      exact (keeps_backed _ rules).walkBy trivial backed _ _ _ _
  | evaluate => exact silent ((minds_backed rules).evaluate backed)
  | bind externals => exact silent (backed.bindExternals externals)
  | enter entryPoint => exact backed.of_same rfl rfl rfl rfl
  | startClock => exact backed.of_same rfl rfl rfl rfl
  | checkDeadline => exact silent (Scan.retains_checkDeadline backed.looked backed)

theorem Backed.leave (backed : Backed rules context) (requests : List (Request rules)) :
    Backed rules (Request.leave requests context) := by
  induction requests generalizing context with
  | nil => exact backed
  | cons request requests ih => exact ih ((retains_iff _).mp (backed.act request))

/-! ## Cleaning -/

/-- The context at the start of a scan that goes on with what is not about matches, verdicts and times
spent. -/
def Context.restarted (rules : RuleSet) (context : Context) : Context :=
  { new rules context.slot context.flags context.fileSize context.timeout context.clock with
    entryPoint := context.entryPoint
    clock := context.clock
    started := context.started
    objects := context.objects }

theorem Backed.clean_eq (backed : Backed rules context) :
    context.clean = context.restarted rules := by
  obtain ⟨events, ledger, mirrored⟩ := backed
  have lists : context.clean.lists = Array.replicate rules.strings.size .empty := by
    have size : context.clean.lists.size = rules.strings.size :=
      (size_foldl_setIfInBounds ..).trans mirrored.lists
    rw [← size]
    refine eq_replicate_of_getD fun string => ?_
    have none := mirrored.context.clean.lists string
    exact congrArg Arena.mk (Array.toList_eq_nil_iff.mp none)
  have notes : context.notes.cleared = Notes.new rules := by
    rw [mirrored.notes]
    exact (Store.tidy_afterAll rules events).notes.cleared_eq
  injection notes with _ matched unsatisfied strings times
  have parts : context.clean = { context with
    lists := context.clean.lists
    registry := .empty
    total := 0
    recorded := ∅
    matchedRules := context.matchedRules.map fun _ => false
    unsatisfiedSpaces := context.unsatisfiedSpaces.map fun _ => false
    stringTimes := context.stringTimes.map fun _ => 0
    ruleTimes := context.ruleTimes.map fun _ => 0 } := rfl
  rw [parts, lists]
  simp only [Context.notes] at matched unsatisfied strings times
  rw [matched, unsatisfied, strings, times]
  rfl

theorem Context.isClean_restarted (rules : RuleSet) (context : Context) :
    (context.restarted rules).isClean = true := by
  have empty : Arena.isEmpty (.empty : Arena Match) = true := rfl
  have unregistered : Arena.isEmpty (.empty : Arena Nat) = true := rfl
  simp only [isClean, restarted, new, all_replicate_of, empty, unregistered,
    Std.HashSet.isEmpty_empty, Bool.not_false, beq_self_eq_true, Bool.and_self]

/-- Whatever was asked of a context from its start on, with whatever results, cleaning it leaves no
matches, verdicts and times, and all requests after that give what they give on a context at the start
of a scan, with the same slot, flags, file size, entry point, clock and external variables. A store of
chained lists keeps the same matches and notes as the context, and whatever has happened to a store,
even if memory ran out in the middle of an operation, cleaning it gives the store that a scan starts
with. -/
theorem Context.clean_restarts (rules : RuleSet) (slot : Nat) (flags : ScanFlags)
    (fileSize : UInt64) (timeout : Nanoseconds) (clock : Clock) (requests : List (Request rules)) :
    let context := Request.leave requests (new rules slot flags fileSize timeout clock)
    context.clean.isClean = true ∧
    (∀ later : List (Request rules),
      Request.trace later context.clean = Request.trace later (context.restarted rules)) ∧
    (∃ events ledger,
      Mirrored rules.strings.size (Store.afterAll rules events, ledger) (context, ledger)) ∧
    ∀ events, (Store.afterAll rules events).clean = Store.new rules ∧
      (Store.afterAll rules events).clean.isClean = true := by
  intro context
  have backed : Backed rules context :=
    (backed_new rules slot flags fileSize timeout clock).leave requests
  rw [backed.clean_eq]
  refine ⟨isClean_restarted rules context, fun _ => rfl, backed, fun events => ?_⟩
  rw [Store.clean_afterAll]
  exact ⟨rfl, Store.isClean_new rules⟩

end

end ByteScan
