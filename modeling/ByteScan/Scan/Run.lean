import ByteScan.Image.EntryPoint
import ByteScan.Scan.BlockScan
import ByteScan.Scan.Counters
import ByteScan.Scan.Evaluation
import ByteScan.Scan.Slots

/-!
# Running scans

A scan holds a slot while it gathers matches and verdicts, and then tells a listener the verdict on
each rule that is not private. The listener decides after each of these messages whether to go on,
and may start further scans of the same rule set meanwhile; what scans share is therefore part of
the state that the listener acts on.
-/

namespace ByteScan

structure Verdict where
  rule : Rule
  space : String
  found : List (StringDef × List Match)

inductive Message where
  | matching (verdict : Verdict)
  | notMatching (verdict : Verdict)
  | finished

inductive Reply where
  | proceed
  | abort
  | fail
  deriving DecidableEq, Repr, Inhabited

structure Activity where
  slots : Slots
  counters : Counters
  deriving DecidableEq, Repr, Inhabited

def Activity.idle (rules : RuleSet) : Activity := ⟨.empty, rules.counters⟩

/-- An action on the shared state and on the memory of a listener. -/
abbrev SharedM (σ : Type) := StateM (Activity × σ)

abbrev Listener (σ : Type) := Message → SharedM σ Reply

namespace Scan

def blockEntryPoint (flags : ScanFlags) (block : Block) : Except Image.Overflow (Option UInt64) :=
  if flags.processMemory then Image.entryPointAddress block.data block.base
  else Image.entryPointOffset block.data

def detectEntryPoint (block : Block) (context : Context) : Context :=
  match context.entryPoint with
  | some _ => context
  | none =>
    match blockEntryPoint context.flags block with
    | .ok entryPoint => context.setEntryPoint entryPoint
    | .error _ => context

def scanBlocks (rules : RuleSet) : List Block → ScanM Unit
  | [] => pure ()
  | block :: blocks => do
    modify (detectEntryPoint block)
    discard (scanBlock rules block)
    scanBlocks rules blocks

/-- Gathers all matches in some blocks and the verdicts on all rules. -/
def gather (rules : RuleSet) (blocks : List Block) : ScanM Unit := do
  Context.bindExternals rules.externals
  Context.startClock
  scanBlocks rules blocks
  evaluate rules

def foundStrings (rules : RuleSet) (context : Context) (rule : Rule) :
    List (StringDef × List Match) :=
  rule.strings.filterMap fun string =>
    if context.matchCount string = 0 then none
    else rules.strings[string]?.map fun defined => (defined, context.matchesOf string)

/-- A rule matches: its condition is true and no global rule of its namespace failed. -/
def isMatching (context : Context) (number : Nat) (rule : Rule) : Bool :=
  context.ruleMatched number && !context.isUnsatisfied rule.space

def messageOn (rules : RuleSet) (context : Context) (number : Nat) (rule : Rule) : Message :=
  let verdict : Verdict := ⟨rule, rules.spaceOf rule, foundStrings rules context rule⟩
  if isMatching context number rule then .matching verdict else .notMatching verdict

/-- The messages about all rules that are not private, in the order of the rules. -/
def verdicts (rules : RuleSet) (context : Context) : List Message :=
  (rules.rules.toList.zipIdx.filter fun entry => !entry.1.isPrivate).map fun (rule, number) =>
    messageOn rules context number rule

/-- Tells a listener some messages until it wants no more, and then that this was all. The answer to
the last message does not count. -/
def announce (listener : Listener σ) : List Message → SharedM σ (Except Error Unit)
  | [] => do
    discard (listener .finished)
    pure (.ok ())
  | message :: messages => do
    match ← listener message with
    | .proceed => announce listener messages
    | .abort => pure (.ok ())
    | .fail => pure (.error .callback)

def recordProfile (context : Context) (activity : Activity) : Activity :=
  if context.flags.profile then { activity with counters := activity.counters.record context }
  else activity

def report (rules : RuleSet) (blocks : List Block) (context : Context) (listener : Listener σ) :
    SharedM σ (Except Error Unit) :=
  match gather rules blocks context with
  | .error error _ => pure (.error error)
  | .ok () context => do
    modify fun (activity, memory) => (recordProfile context activity, memory)
    announce listener (verdicts rules context)

/-- Does something with a free slot, and frees the slot afterwards. -/
def withSlot (use : Nat → SharedM σ (Except Error Unit)) : SharedM σ (Except Error Unit) := do
  let (activity, memory) ← get
  match activity.slots.acquire? with
  | none => pure (.error .tooManyScans)
  | some (slot, slots) => do
    set ({ activity with slots }, memory)
    let result ← use slot
    modify fun (activity, memory) =>
      ({ activity with slots := activity.slots.release slot }, memory)
    pure result

/-- Scans blocks as one target. Without blocks there is nothing to do. -/
def run (rules : RuleSet) (blocks : List Block) (flags : ScanFlags) (timeout : Nanoseconds)
    (clock : Clock) (listener : Listener σ) : SharedM σ (Except Error Unit) :=
  match blocks with
  | [] => pure (.ok ())
  | first :: _ => withSlot fun slot =>
    let size := UInt64.ofNat first.data.size
    report rules blocks (.new rules slot flags size timeout clock) listener

def runOnData (rules : RuleSet) (data : ByteArray) (flags : ScanFlags) (timeout : Nanoseconds)
    (clock : Clock) (listener : Listener σ) : SharedM σ (Except Error Unit) :=
  run rules [⟨0, data⟩] flags timeout clock listener

end Scan

end ByteScan
