import ByteScan.CommandLine.Description
import ByteScan.CommandLine.Invocation
import ByteScan.Process.Running
import ByteScan.RuleSet.Declaration
import ByteScan.Text.Escaped

/-!
# Scanning from the command line

Targets are scanned one after the other. For each of them the rules that match are printed, with
their tags and the matches of their strings where that is asked for, or the rules that do not match.
A target that cannot be scanned is told among the results and makes the command fail.
-/

namespace ByteScan.CommandLine

inductive Target where
  | file (path : String)
  | process (number : Nat)
  deriving DecidableEq, Repr

def Target.name : Target → String
  | .file path => path
  | .process number => toString number

structure Machine where
  tree : FileTree
  process? : Nat → Option RunningProcess

def largestProcess : Nat := UInt32.size - 1

def splitDefinition? (text : String) : Option (String × String) :=
  match text.toList.dropWhile (· != '=') with
  | [] => none
  | _ :: value => some (String.ofList (text.toList.takeWhile (· != '=')), String.ofList value)

def addDefinitions : Settings → List String → Except Failure Settings
  | settings, [] => .ok settings
  | settings, text :: rest =>
    match splitDefinition? text with
    | some (name, value) => addDefinitions (settings.define name value) rest
    | none => .error ["invalid definition '" ++ text ++ "', expected NAME=VALUE"]

def requestSettings (settings : Settings) (request : ScanRequest) : Except Failure Settings := do
  let settings := { settings with
    timeoutSeconds := request.timeout.getD settings.timeoutSeconds
    threads := request.threads.or settings.threads
    fastMode := settings.fastMode || request.fast
    printStrings := settings.printStrings || request.printStrings
    printTags := settings.printTags || request.printTags
    negate := settings.negate || request.negate
    showProgress := settings.showProgress && !request.noProgress
    profile := settings.profile || request.profile }
  let settings ← addDefinitions settings request.defines
  match settings.fault? with
  | some fault => .error [fault.message]
  | none => .ok settings

/-- The files that a target stands for: those right in a directory, or the file itself. -/
def filesOf (tree : FileTree) (path : String) : List Target :=
  if tree.isDirectory path then
    (tree.filesIn path).map fun name => .file (FilePath.childText path name)
  else [.file path]

def processOf (text : String) : Except Failure Target :=
  match Text.readUnsigned 10 largestProcess text with
  | .ok number => .ok (.process number)
  | .error fault => .error ["invalid pid '" ++ text ++ "'", fault.message]

def targetsOf (tree : FileTree) (request : ScanRequest) : Except Failure (List Target) :=
  if request.processes then request.targets.mapM processOf
  else .ok (request.targets.flatMap (filesOf tree))

/-- A rule with its namespace, unless that is the usual one. -/
def ruleName (verdict : Verdict) : String :=
  if verdict.space = defaultSpace then verdict.rule.identifier
  else verdict.space ++ ":" ++ verdict.rule.identifier

def matchLine (string : StringDef) (found : Match) : String :=
  let address := String.ofList (Text.digits 16 (found.base.toNat + found.offset))
  "0x" ++ address ++ ":$" ++ string.identifier ++ ": " ++ Text.escape found.excerpt.toList

def verdictText (settings : Settings) (target : String) (verdict : Verdict) : String :=
  let tags := if settings.printTags then " " ++ tagsText verdict.rule.tags else ""
  let places := if settings.printStrings then
      verdict.found.flatMap fun (string, places) => places.map (matchLine string)
    else []
  linesText ((ruleName verdict ++ tags ++ " " ++ target) :: places)

def reporter (settings : Settings) (target : String) : Listener String := fun message => do
  let report (verdict : Verdict) : SharedM String Unit :=
    modify fun (activity, printed) => (activity, printed ++ verdictText settings target verdict)
  match message with
  | .matching verdict => if settings.negate then pure () else report verdict
  | .notMatching verdict => if settings.negate then report verdict else pure ()
  | .finished => pure ()
  pure .proceed

def scanTarget (machine : Machine) (rules : RuleSet) (settings : Settings) (clock : Clock)
    (target : Target) : SharedM String (Except Error Unit) :=
  let listener := reporter settings target.name
  match target with
  | .file path =>
    Scan.runOnFile rules machine.tree path settings.scanFlags settings.timeout clock listener
  | .process number =>
    Scan.runOnProcess rules number (machine.process? number) settings.scanFlags settings.timeout
      clock listener

def withoutLineEnds (text : String) : String :=
  String.ofList (text.toList.reverse.dropWhile (· == '\n')).reverse

def targetReport (target : Target) (result : Except Error Unit) (printed : String) :
    String × Bool :=
  match result with
  | .ok () => (printed, true)
  | .error error => (failureMark ++ " " ++ target.name ++ ": " ++ error.message ++ "\n", false)

/-- Scans targets one after the other; gives all that is printed, whether all could be scanned, and
what the scans share. -/
def scanTargets (machine : Machine) (rules : RuleSet) (settings : Settings) (clock : Clock) :
    Activity → List Target → String × Bool × Activity
  | activity, [] => ("", true, activity)
  | activity, target :: targets =>
    let (result, activity, printed) :=
      (scanTarget machine rules settings clock target).run (activity, "")
    let (report, success) := targetReport target result printed
    let line := if report.isEmpty then "" else withoutLineEnds report ++ "\n"
    let (rest, others, activity) := scanTargets machine rules settings clock activity targets
    (line ++ rest, success && others, activity)

def profileLines (rules : RuleSet) (counters : Counters) : List String :=
  let sorted := (rules.profile counters).mergeSort fun first second => second.time ≤ first.time
  ["", "Profiling (microseconds per rule):"] ++ sorted.map fun profile => "  " ++ profile.text

def scanRequested (machine : Machine) (settings : Settings) (clock : Clock)
    (request : ScanRequest) : Except Failure Outcome := do
  let settings ← requestSettings settings request
  let rules ← loadRules machine.tree request.compiled
  let (applied, rules) := settings.applyTo rules
  applied.mapError Error.causes
  let targets ← targetsOf machine.tree request
  let (printed, success, activity) :=
    scanTargets machine rules settings clock (.idle rules) targets
  let hidden := settings.showProgress && hasAtLeast 2 targets
  let profile :=
    if settings.profile then linesText (profileLines rules activity.counters) else ""
  .ok {
    code := if success then 0 else 1
    output := if hidden then profile else printed ++ profile
    progress := if hidden then printed else "" }

end ByteScan.CommandLine
