import ByteScan.Proofs.Strict.Decoding
import ByteScan.Proofs.Strict.Scanning

/-!
# Evaluating without reaching beyond

The strict forms of the machine that evaluates conditions. It never asks for a rule that there is none
of or for an address beyond all addresses, and it comes to an end, whatever its code holds:
`evaluate_safe`.
-/

namespace ByteScan

namespace Strict

open Scan (MachineState)

def give (result : ExceptT Error Option α) : Acting α := fun context =>
  match result with
  | none => none
  | some (.ok value) => some (.ok value context)
  | some (.error error) => some (.error error context)

/-- Whether the address of some match has a property; each match that is looked at has to have one. -/
def anyAddress (property : Int64 → Bool) : List Match → Option Bool
  | [] => some false
  | found :: others => do
    let address ← found.address?
    if property address.toInt64 then some true else anyAddress property others

def valueOf (rules : RuleSet) (context : Context) (stack : List Value) :
    Instruction → ExceptT Error Option (Value × List Value)
  | .foundAt string => do
    let (address, stack) ← (Scan.pop stack : Except Error (Value × List Value))
    match address with
    | .integer address => do
      let found ← demand (anyAddress (· == address) (context.matchesOf string.toNat))
      pure (.boolean found, stack)
    | _ => pure (.undefined, stack)
  | .foundIn string => do
    let (low, high, stack) ← (Scan.popTwo stack : Except Error (Value × Value × List Value))
    match low, high with
    | .integer low, .integer high => do
      let found ← demand (anyAddress (fun address => low ≤ address && address ≤ high)
        (context.matchesOf string.toNat))
      pure (.boolean found, stack)
    | _, _ => pure (.undefined, stack)
  | .ofThem rule minimum => do
    let rule ← demand rules.rules[rule.toNat]?
    pure (.boolean (minimum.toNat ≤ Scan.countFound context (some rule)), stack)
  | instruction => some (Scan.valueOf rules context stack instruction)

/-- Records a verdict on a rule, which is looked up if the verdict is not true. -/
def recordVerdict (rules : RuleSet) (number : Nat) (value : Value) : Acting Unit := fun context =>
  if value.isTruthy then some (.ok () (context.setRuleMatched number))
  else do
    let rule ← rules.rules[number]?
    some (.ok () (if rule.isGlobal then context.setUnsatisfied rule.space else context))

def followInstruction (rules : RuleSet) (machine : MachineState) (instruction : Instruction)
    (place : CodePlace) : Acting (Option MachineState) :=
  match instruction with
  | .halt => pure none
  | .verdict number => do
    let (value, stack) ← give (some (Scan.pop machine.stack))
    recordVerdict rules number.toNat value
    let ruleBegun ← act (Scan.chargeRule number.toNat machine.ruleBegun)
    pure (some { machine with place, stack, ruleBegun })
  | instruction => do
    let context ← act get
    let (value, stack) ← give (valueOf rules context machine.stack instruction)
    if hasAtLeast Scan.stackLimit stack then act (throw (Scan.codeError .stackOverflow))
    pure (some { machine with place, stack := value :: stack })

/-- Follows the code to its end; the first argument bounds the instructions that are followed. -/
def followCode (rules : RuleSet) : Nat → MachineState → Acting Unit
  | 0, _ => fun _ => none
  | left + 1, machine => do
    let begun := machine.begun + 1
    if begun % Scan.deadlineInstructions = 0 then act Context.checkDeadline
    match ← require (takeInstruction rules.strings.size rules.rules.size machine.place) with
    | .error fault => act (throw (Scan.codeError fault))
    | .ok (instruction, place) => do
      match ← followInstruction rules { machine with begun } instruction place with
      | some machine => followCode rules left machine
      | none => pure ()

def evaluate (rules : RuleSet) : Acting Unit := do
  let context ← act get
  let ruleBegun ← if context.flags.profile then act (some <$> Context.look) else pure none
  let code := rules.code.drop rules.codeStart
  followCode rules (code.length + 1) ⟨⟨rules.codeStart, code⟩, [], 0, ruleBegun⟩

end Strict

namespace Scan

open Strict

variable {rules : RuleSet} {context : Context}

/-! ## One instruction -/

theorem anyAddress_strict (property : Int64 → Bool) {listed : List Match}
    (addressed : ∀ found ∈ listed, ∃ address, found.address? = some address) :
    ∃ answer, Strict.anyAddress property listed = some answer ∧
      anyAddress property listed = .ok answer := by
  induction listed with
  | nil => exact ⟨false, rfl, rfl⟩
  | cons found others ih =>
      obtain ⟨⟨address, isAddress⟩, rest⟩ := List.forall_mem_cons.mp addressed
      obtain ⟨answer, strict, plain⟩ := ih rest
      rw [Strict.anyAddress, anyAddress, isAddress]
      simp only [Option.bind_eq_bind, Option.bind_some]
      by_cases holds : property address.toInt64 = true
      · rw [if_pos holds, if_pos holds]
        exact ⟨true, rfl, rfl⟩
      · rw [if_neg holds, if_neg holds]
        exact ⟨answer, strict, plain⟩

theorem pop_ran (stack : List Value) :
    Ran Error.IsOfScan (some (pop stack)) (pop stack) fun _ => True := by
  cases stack with
  | nil => exact ⟨rfl, trivial⟩
  | cons value stack => exact ⟨rfl, trivial⟩

theorem popTwo_ran (stack : List Value) :
    Ran Error.IsOfScan (some (popTwo stack)) (popTwo stack) fun _ => True := by
  match stack with
  | [] | [_] | _ :: _ :: _ => exact ⟨rfl, trivial⟩

theorem valueOf_ran (sane : context.Sane rules) (stack : List Value) {instruction : Instruction}
    (names : NamesRules rules.rules.size instruction) :
    Ran Error.IsOfScan (Strict.valueOf rules context stack instruction)
      (valueOf rules context stack instruction) fun _ => True := by
  cases instruction with
  | halt | verdict _ | pushUndefined | pushInteger _ | pushFloat _ | pushBoolean _ | pushBytes _
  | found _ | count _ | fileSize | rule _ => exact ⟨rfl, trivial⟩
  | foundAt string =>
      apply (pop_ran stack).bind
      rintro ⟨address, below⟩ _
      cases address with
      | integer address =>
          obtain ⟨answer, strict, plain⟩ :=
            anyAddress_strict (· == address) (sane.addressed string.toNat)
          dsimp only
          rw [demand_bind strict, plain]
          exact ⟨rfl, trivial⟩
      | undefined | float _ | boolean _ | bytes _ => exact ⟨rfl, trivial⟩
  | foundIn string =>
      apply (popTwo_ran stack).bind
      rintro ⟨low, high, below⟩ _
      cases low with
      | integer low =>
          cases high with
          | integer high =>
              obtain ⟨answer, strict, plain⟩ :=
                anyAddress_strict (fun address => low ≤ address && address ≤ high)
                  (sane.addressed string.toNat)
              dsimp only
              rw [demand_bind strict, plain]
              exact ⟨rfl, trivial⟩
          | undefined | float _ | boolean _ | bytes _ => exact ⟨rfl, trivial⟩
      | undefined | float _ | boolean _ | bytes _ => exact ⟨rfl, trivial⟩
  | ofThem rule minimum =>
      have known : rule.toNat < rules.rules.size := names
      have listed := Array.getElem?_eq_getElem known
      rw [Strict.valueOf, valueOf, demand_bind listed, listed]
      exact ⟨rfl, trivial⟩
  | entryPoint =>
      refine ⟨rfl, ?_⟩
      rw [valueOf]
      cases context.entryPoint with
      | some address => trivial
      | none => trivial
  | external index =>
      refine ⟨rfl, ?_⟩
      rw [valueOf]
      cases rules.externals[index.toNat]? with
      | some external => trivial
      | none => trivial
  | not =>
      match stack with
      | [] | _ :: _ => exact ⟨rfl, trivial⟩
  | and | or | compare _ | contains =>
      match stack with
      | [] | [_] | _ :: _ :: _ => exact ⟨rfl, trivial⟩

theorem give_safe {strict : ExceptT Error Option α} {plain : Except Error α} {holds : α → Prop}
    (ran : Ran Error.IsOfScan strict plain holds) (sane : context.Sane rules) :
    Safe (give strict) (MonadExcept.ofExcept plain) (fun _ => Context.Sane rules) context := by
  obtain ⟨rfl, outcome⟩ := ran
  cases plain with
  | ok value => exact ⟨rfl, sane⟩
  | error error => exact ⟨rfl, outcome⟩

theorem recordVerdict_lists (number : Nat) (value : Value) :
    (recordVerdict rules number value context).lists = context.lists := by
  unfold recordVerdict
  split
  · rfl
  · split
    · split <;> rfl
    · rfl

theorem recordVerdict_safe (sane : context.Sane rules) {number : Nat}
    (known : number < rules.rules.size) (value : Value) :
    Safe (Strict.recordVerdict rules number value) (modify (recordVerdict rules number value))
      (fun _ => Context.Sane rules) context := by
  constructor
  · have recorded : (modify (recordVerdict rules number value) : ScanM Unit) context =
        .ok () (recordVerdict rules number value context) := rfl
    rw [recorded, Strict.recordVerdict, recordVerdict]
    by_cases truthy : value.isTruthy = true
    · rw [if_pos truthy, if_pos truthy]
    · rw [if_neg truthy, if_neg truthy, Array.getElem?_eq_getElem known]
      rfl
  · exact sane.of_lists (recordVerdict_lists number value)

theorem chargeRule_safe (sane : context.Sane rules) (number : Nat)
    (ruleBegun : Option Nanoseconds) :
    Safe (act (chargeRule number ruleBegun)) (chargeRule number ruleBegun) (fun _ => Context.Sane rules)
      context := by
  apply Safe.act
  cases ruleBegun with
  | none => exact sane
  | some begun => exact sane.of_lists rfl

/-- The state is as it should be, and a machine that goes on does so at a given place. -/
def GoesOnAt (rules : RuleSet) (place : CodePlace) (next : Option MachineState)
    (context : Context) : Prop :=
  context.Sane rules ∧ ∀ machine, next = some machine → machine.place = place

theorem putValue_safe (sane : context.Sane rules) {instruction : Instruction}
    (names : NamesRules rules.rules.size instruction) (machine : MachineState)
    (place : CodePlace) :
    Safe (do
        let context ← act get
        let (value, stack) ← give (Strict.valueOf rules context machine.stack instruction)
        if hasAtLeast stackLimit stack then act (throw (codeError .stackOverflow))
        pure (some { machine with place, stack := value :: stack }))
      (do
        let context ← get
        let (value, stack) ← MonadExcept.ofExcept (valueOf rules context machine.stack instruction)
        if hasAtLeast stackLimit stack then throw (codeError .stackOverflow)
        pure (some { machine with place, stack := value :: stack }))
      (GoesOnAt rules place) context := by
  have seen : Safe (act get) get (fun seen after => seen = context ∧ after = context) context :=
    Safe.act ⟨rfl, rfl⟩
  apply seen.bind
  rintro _ _ ⟨rfl, rfl⟩
  apply (give_safe (valueOf_ran sane machine.stack names) sane).bind
  rintro ⟨value, stack⟩ after sane
  by_cases full : hasAtLeast stackLimit stack = true
  · simp only [if_pos full]
    exact ⟨rfl, trivial⟩
  · simp only [if_neg full]
    refine Safe.pure ⟨sane, ?_⟩
    intro _ same
    cases same
    rfl

theorem followInstruction_safe (sane : context.Sane rules) {instruction : Instruction}
    (names : NamesRules rules.rules.size instruction) (machine : MachineState)
    (place : CodePlace) :
    Safe (Strict.followInstruction rules machine instruction place)
      (followInstruction rules machine instruction place) (GoesOnAt rules place) context := by
  cases instruction with
  | halt =>
      refine Safe.pure ⟨sane, ?_⟩
      intro _ isNone
      cases isNone
  | verdict number =>
      apply (give_safe (pop_ran machine.stack) sane).bind
      rintro ⟨value, stack⟩ after sane
      apply (recordVerdict_safe sane names value).bind
      intro _ after sane
      apply (chargeRule_safe sane number.toNat machine.ruleBegun).bind
      intro ruleBegun after sane
      refine Safe.pure ⟨sane, ?_⟩
      intro _ same
      cases same
      rfl
  | pushInteger _ | pushFloat _ | pushBoolean _ | pushUndefined | pushBytes _ | found _ | count _
  | foundAt _ | foundIn _ | ofThem _ _ | fileSize | entryPoint | rule _ | external _ | not | and
  | or | compare _ | contains => exact putValue_safe sane names machine place

/-! ## The code -/

/-- Following code comes to an end, as each instruction leaves less of it. -/
theorem followCode_safe (left : Nat) {machine : MachineState}
    (enough : machine.place.rest.length < left) (sane : context.Sane rules) :
    Safe (followCode rules left machine) (follow rules left machine)
      (fun _ => Context.Sane rules) context := by
  induction left generalizing machine context with
  | zero => exact absurd enough (Nat.not_lt_zero _)
  | succ left ih =>
      rw [followCode, follow]
      apply deadline_safe sane
      intro context sane
      -- Each instruction takes at least a byte, so the bound on instructions is never reached.
      obtain ⟨same, outcome⟩ :=
        takeInstruction_ran rules.strings.size rules.rules.size machine.place
      rw [require_bind same]
      cases taken : machine.place.takeInstruction rules.strings.size rules.rules.size with
      | error fault => exact ⟨rfl, trivial⟩
      | ok result =>
          obtain ⟨instruction, place⟩ := result
          rw [taken] at outcome
          obtain ⟨names, fewer⟩ := outcome
          apply (followInstruction_safe sane names _ place).bind
          rintro following after ⟨sane, goesOn⟩
          cases following with
          | none => exact Safe.pure sane
          | some next =>
              apply ih _ sane
              rw [goesOn next rfl]
              exact Nat.lt_of_lt_of_le fewer (Nat.le_of_lt_succ enough)

/-- Evaluating conditions asks for nothing that there is not, and comes to an end. -/
theorem evaluate_safe (sane : context.Sane rules) :
    Safe (Strict.evaluate rules) (evaluate rules) (fun _ => Context.Sane rules) context := by
  have seen : Safe (act get) (get : ScanM Context) (fun _ => Context.Sane rules) context :=
    Safe.act sane
  apply seen.bind
  intro current after sane
  apply Safe.ite
  · intro _
    have timed : Safe (act (some <$> Context.look)) (some <$> Context.look)
        (fun _ => Context.Sane rules) after := Safe.act (sane.of_lists rfl)
    apply timed.bind
    intro ruleBegun after sane
    exact followCode_safe _ (Nat.lt_succ_self _) sane
  · intro _
    exact followCode_safe _ (Nat.lt_succ_self _) sane

end Scan

end ByteScan
