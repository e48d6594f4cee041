import ByteScan.Condition.Value
import ByteScan.RuleSet.Basic
import ByteScan.Scan.Arena
import ByteScan.Scan.Clock
import ByteScan.Scan.Match
import Std.Data.HashSet

/-!
# The state of a scan

Everything that changes while a rule set is applied to some data is kept in a context, so the rule
set itself stays as it is. Strings with matches are registered in the order of their first match,
and cleaning a context empties the lists of the registered strings.
-/

namespace ByteScan

structure ScanFlags where
  processMemory : Bool := false
  fastMode : Bool := false
  profile : Bool := false
  deriving DecidableEq, Repr, Inhabited

def ScanFlags.bits (flags : ScanFlags) : Nat :=
  flags.processMemory.toNat + 2 * flags.fastMode.toNat + 4 * flags.profile.toNat

structure Context where
  slot : Nat
  flags : ScanFlags
  fileSize : UInt64
  entryPoint : Option UInt64
  timeout : Nanoseconds
  clock : Clock
  started : Nanoseconds
  objects : List (String × Value)
  lists : Array (Arena Match)
  /-- The strings with matches, in the order of their first match. -/
  registry : Arena Nat
  total : Nat
  /-- The strings, bases and offsets that were verified where candidates may come out of order. -/
  recorded : Std.HashSet (Nat × UInt64 × Nat)
  matchedRules : Array Bool
  unsatisfiedSpaces : Array Bool
  stringTimes : Array Nanoseconds
  ruleTimes : Array Nanoseconds

/-- An action on the state of a scan, which keeps the state where it fails. -/
abbrev ScanM := EStateM Error Context

namespace Context

def matchLimit : Nat := 1000000

def new (rules : RuleSet) (slot : Nat) (flags : ScanFlags) (fileSize : UInt64)
    (timeout : Nanoseconds) (clock : Clock) : Context :=
  let (started, clock) := clock.look
  { slot, flags, fileSize, entryPoint := none, timeout, clock, started
    objects := []
    lists := Array.replicate rules.strings.size .empty
    registry := .empty
    total := 0
    recorded := ∅
    matchedRules := Array.replicate rules.rules.size false
    unsatisfiedSpaces := Array.replicate rules.spaces.size false
    stringTimes := Array.replicate rules.strings.size 0
    ruleTimes := Array.replicate rules.rules.size 0 }

def setEntryPoint (context : Context) (entryPoint : Option UInt64) : Context :=
  { context with entryPoint }

/-! ## Matches -/

def matchesOf (context : Context) (string : Nat) : List Match :=
  (context.lists.getD string .empty).toList

def matchCount (context : Context) (string : Nat) : Nat :=
  (context.lists.getD string .empty).size

def lastMatch? (context : Context) (string : Nat) : Option Match :=
  (context.lists.getD string .empty).last?

/-- The strings with matches, in the order of their first match. -/
def matchingStrings (context : Context) : List Nat := context.registry.toList

def register (context : Context) (string : Nat) : Context :=
  { context with registry := ⟨context.registry.items.push string⟩ }

def append (context : Context) (string : Nat) (found : Match) : Context :=
  { context with
    lists := context.lists.modify string fun list => ⟨list.items.push found⟩
    total := context.total + 1 }

def hasRoom (context : Context) (string : Nat) : Bool :=
  context.matchCount string < matchLimit && context.total < Arena.capacity

def addMatch (string : Nat) (found : Match) : ScanM Unit := fun context =>
  if context.hasRoom string then
    if context.matchCount string = 0 then .ok () ((context.register string).append string found)
    else .ok () (context.append string found)
  else .error .insufficientMemory context

/-- Remembers a verified place of a string the candidates of which may come out of order. -/
def markRecorded (string : Nat) (base : UInt64) (offset : Nat) (context : Context) : Context :=
  { context with recorded := context.recorded.insert (string, base, offset) }

def isRecorded (context : Context) (string : Nat) (base : UInt64) (offset : Nat) : Bool :=
  context.recorded.contains (string, base, offset)

/-! ## Verdicts -/

def ruleMatched (context : Context) (rule : Nat) : Bool := context.matchedRules.getD rule false

def setRuleMatched (context : Context) (rule : Nat) : Context :=
  { context with matchedRules := context.matchedRules.setIfInBounds rule true }

def isUnsatisfied (context : Context) (space : Nat) : Bool :=
  context.unsatisfiedSpaces.getD space false

def setUnsatisfied (context : Context) (space : Nat) : Context :=
  { context with unsatisfiedSpaces := context.unsatisfiedSpaces.setIfInBounds space true }

/-! ## Time -/

def look : ScanM Nanoseconds := fun context =>
  let (time, clock) := context.clock.look
  .ok time { context with clock }

def startClock : ScanM Unit := do
  let time ← look
  modify fun context => { context with started := time }

def checkDeadline : ScanM Unit := fun context =>
  if context.timeout = 0 then .ok () context
  else
    let (time, clock) := context.clock.look
    let overdue := context.timeout < time - context.started
    let context := { context with clock }
    if overdue then .error .timeout context else .ok () context

def addStringTime (context : Context) (string : Nat) (time : Nanoseconds) : Context :=
  { context with stringTimes := context.stringTimes.modify string (·.add time) }

def addRuleTime (context : Context) (rule : Nat) (time : Nanoseconds) : Context :=
  { context with ruleTimes := context.ruleTimes.modify rule (·.add time) }

def stringTime (context : Context) (string : Nat) : Nanoseconds :=
  context.stringTimes.getD string 0

def ruleTime (context : Context) (rule : Nat) : Nanoseconds := context.ruleTimes.getD rule 0

/-! ## External variables -/

def valueOf : ExternalValue → Value
  | .integer value => .integer value
  | .boolean value => .boolean value
  | .float value => .float value
  | .string bytes _ => .bytes bytes

def object? (context : Context) (name : String) : Option Value := context.objects.lookup name

/-- Binds external variables. Binding a name again fails, after it was given the new value. -/
def bindExternals : List External → ScanM Unit
  | [] => pure ()
  | external :: externals => do
    let context ← get
    let bound := (context.object? external.identifier).isSome
    set { context with
      objects := (external.identifier, valueOf external.value) :: context.objects }
    if bound then throw (.invalidArgument (.boundTwice external.identifier))
    bindExternals externals

/-! ## Cleaning -/

def clearLists (lists : Array (Arena Match)) (strings : List Nat) : Array (Arena Match) :=
  strings.foldl (fun lists string => lists.setIfInBounds string .empty) lists

def clean (context : Context) : Context :=
  { context with
    lists := clearLists context.lists context.registry.toList
    registry := .empty
    total := 0
    recorded := ∅
    matchedRules := context.matchedRules.map fun _ => false
    unsatisfiedSpaces := context.unsatisfiedSpaces.map fun _ => false
    stringTimes := context.stringTimes.map fun _ => 0
    ruleTimes := context.ruleTimes.map fun _ => 0 }

/-- There are no matches, verdicts and times. -/
def isClean (context : Context) : Bool :=
  context.matchedRules.all (!·) && context.unsatisfiedSpaces.all (!·) &&
    context.lists.all Arena.isEmpty && context.registry.isEmpty && context.total == 0 &&
    context.recorded.isEmpty && context.stringTimes.all (· == 0) && context.ruleTimes.all (· == 0)

end Context

end ByteScan
