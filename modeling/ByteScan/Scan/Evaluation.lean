import ByteScan.Scan.Context

/-!
# Evaluating conditions

The condition code of a rule set is followed once all blocks have been scanned. It computes the
value of each condition on a stack and records the verdict: a rule whose condition is true matches,
and a global rule whose condition is not true voids its namespace.
-/

namespace ByteScan.Scan

def stackLimit : Nat := 16384

/-- The deadline is checked at every so many instructions. -/
def deadlineInstructions : Nat := 1024

def codeError (fault : CodeFault) : Error := .corrupt (.code fault)

/-- Whether the address of some match has a property. An address beyond all addresses is an error
unless an earlier match decides. -/
def anyAddress (property : Int64 → Bool) : List Match → Except Error Bool
  | [] => .ok false
  | found :: others =>
    match found.address? with
    | none => .error .unreachableData
    | some address =>
      if property address.toInt64 then .ok true else anyAddress property others

def countFound (context : Context) (rule : Option Rule) : Nat :=
  match rule with
  | some rule => rule.strings.countP fun string => 0 < context.matchCount string
  | none => 0

def pop : List Value → Except Error (Value × List Value)
  | [] => .error (codeError .stackUnderflow)
  | value :: stack => .ok (value, stack)

/-- Takes two values off the stack, the upper one second. -/
def popTwo (stack : List Value) : Except Error (Value × Value × List Value) := do
  let (right, stack) ← pop stack
  let (left, stack) ← pop stack
  .ok (left, right, stack)

/-- The value that an instruction puts on the stack, and what is left of the stack below it. -/
def valueOf (rules : RuleSet) (context : Context) (stack : List Value) :
    Instruction → Except Error (Value × List Value)
  | .halt | .verdict _ | .pushUndefined => .ok (.undefined, stack)
  | .pushInteger value => .ok (.integer value, stack)
  | .pushFloat value => .ok (.float value, stack)
  | .pushBoolean value => .ok (.boolean value, stack)
  | .pushBytes value => .ok (.bytes value, stack)
  | .found string => .ok (.boolean (0 < context.matchCount string.toNat), stack)
  | .count string => .ok (.integer (Int64.ofNat (context.matchCount string.toNat)), stack)
  | .foundAt string => do
    let (address, stack) ← pop stack
    match address with
    | .integer address => do
      let found ← anyAddress (· == address) (context.matchesOf string.toNat)
      .ok (.boolean found, stack)
    | _ => .ok (.undefined, stack)
  | .foundIn string => do
    let (low, high, stack) ← popTwo stack
    match low, high with
    | .integer low, .integer high => do
      let found ← anyAddress (fun address => low ≤ address && address ≤ high)
        (context.matchesOf string.toNat)
      .ok (.boolean found, stack)
    | _, _ => .ok (.undefined, stack)
  | .ofThem rule minimum =>
    .ok (.boolean (minimum.toNat ≤ countFound context rules.rules[rule.toNat]?), stack)
  | .fileSize => .ok (.integer context.fileSize.toInt64, stack)
  | .entryPoint =>
    match context.entryPoint with
    | some address => .ok (.integer address.toInt64, stack)
    | none => .ok (.undefined, stack)
  | .rule rule => .ok (.boolean (context.ruleMatched rule.toNat), stack)
  | .external index =>
    match rules.externals[index.toNat]? with
    | some external => .ok ((context.object? external.identifier).getD .undefined, stack)
    | none => .error (codeError (.unknownExternal index.toNat))
  | .not => do
    let (value, stack) ← pop stack
    .ok (value.not, stack)
  | .and => do
    let (left, right, stack) ← popTwo stack
    .ok (left.and right, stack)
  | .or => do
    let (left, right, stack) ← popTwo stack
    .ok (left.or right, stack)
  | .compare comparison => do
    let (left, right, stack) ← popTwo stack
    .ok (left.compare comparison right, stack)
  | .contains => do
    let (whole, part, stack) ← popTwo stack
    .ok (whole.contains part, stack)

def recordVerdict (rules : RuleSet) (number : Nat) (value : Value) (context : Context) : Context :=
  if value.isTruthy then context.setRuleMatched number
  else
    match rules.rules[number]? with
    | some rule => if rule.isGlobal then context.setUnsatisfied rule.space else context
    | none => context

structure MachineState where
  place : CodePlace
  stack : List Value
  begun : Nat
  /-- When the evaluation of the present rule began, if times are measured. -/
  ruleBegun : Option Nanoseconds

def chargeRule (number : Nat) (ruleBegun : Option Nanoseconds) : ScanM (Option Nanoseconds) :=
  match ruleBegun with
  | none => pure none
  | some begun => do
    let now ← Context.look
    modify fun context => context.addRuleTime number (now - begun)
    pure (some now)

/-- Follows one instruction; gives the machine after it, or nothing at the end of the code. -/
def followInstruction (rules : RuleSet) (machine : MachineState) (instruction : Instruction)
    (place : CodePlace) : ScanM (Option MachineState) :=
  match instruction with
  | .halt => pure none
  | .verdict number => do
    let (value, stack) ← MonadExcept.ofExcept (pop machine.stack)
    modify (recordVerdict rules number.toNat value)
    let ruleBegun ← chargeRule number.toNat machine.ruleBegun
    pure (some { machine with place, stack, ruleBegun })
  | instruction => do
    let context ← get
    let (value, stack) ← MonadExcept.ofExcept (valueOf rules context machine.stack instruction)
    if hasAtLeast stackLimit stack then throw (codeError .stackOverflow)
    pure (some { machine with place, stack := value :: stack })

/-- Follows the code to its end. The first argument bounds the bytes of code that are left. -/
def follow (rules : RuleSet) : Nat → MachineState → ScanM Unit
  | 0, machine => throw (codeError (.truncated machine.place.position))
  | left + 1, machine => do
    let begun := machine.begun + 1
    if begun % deadlineInstructions = 0 then Context.checkDeadline
    match machine.place.takeInstruction rules.strings.size rules.rules.size with
    | .error fault => throw (codeError fault)
    | .ok (instruction, place) => do
      match ← followInstruction rules { machine with begun } instruction place with
      | some machine => follow rules left machine
      | none => pure ()

def evaluate (rules : RuleSet) : ScanM Unit := do
  let context ← get
  let ruleBegun ← if context.flags.profile then some <$> Context.look else pure none
  let code := rules.code.drop rules.codeStart
  follow rules (code.length + 1) ⟨⟨rules.codeStart, code⟩, [], 0, ruleBegun⟩

end ByteScan.Scan
