import ByteScan.CommandLine.Arguments

/-!
# Invocations

A command line asks for one of three things: to compile a description of rules, to scan targets with
compiled rules, or to describe compiled rules. Some options may be given before the name of the
command as well as after it; those after it win.
-/

namespace ByteScan.CommandLine

structure CompileRequest where
  rules : String
  output : String
  deriving DecidableEq, Repr

structure ScanRequest where
  compiled : String
  targets : List String
  processes : Bool
  timeout : Option Nat
  /-- Texts of the form `name=value` for external variables. -/
  defines : List String
  fast : Bool
  printStrings : Bool
  printTags : Bool
  negate : Bool
  threads : Option Nat
  noProgress : Bool
  profile : Bool
  deriving DecidableEq, Repr

inductive Request where
  | compile (request : CompileRequest)
  | scan (request : ScanRequest)
  | describe (compiled : String)
  deriving DecidableEq, Repr

structure Invocation where
  config : Option String
  verbosity : Nat
  request : Request
  deriving DecidableEq, Repr

def defaultOutput : String := "rules.rscn"

def commonOptions : List OptionName := [.help, .verbose, .noColor, .config]

def leadForm : CommandForm := ⟨.version :: commonOptions, [], none⟩

def compileForm : CommandForm := ⟨.output :: commonOptions, [.path], none⟩

def scanForm : CommandForm :=
  ⟨[.pid, .timeout, .define, .fast, .printStrings, .printTags, .negate, .threads, .noProgress,
      .profile] ++ commonOptions, [.path], some .text⟩

def infoForm : CommandForm := ⟨commonOptions, [.path], none⟩

def commandNames : List String := ["compile", "scan", "info", "help"]

def compileRequest? (arguments : Arguments) : Option Request :=
  match arguments.operands.reverse with
  | [rules] => some (.compile ⟨rules, (arguments.value? .output).getD defaultOutput⟩)
  | _ => none

def scanRequest? (arguments : Arguments) : Option Request :=
  match arguments.operands.reverse with
  | compiled :: target :: targets => some (.scan {
      compiled
      targets := target :: targets
      processes := arguments.has .pid
      timeout := (arguments.value? .timeout).bind number?
      defines := arguments.values .define
      fast := arguments.has .fast
      printStrings := arguments.has .printStrings
      printTags := arguments.has .printTags
      negate := arguments.has .negate
      threads := (arguments.value? .threads).bind number?
      noProgress := arguments.has .noProgress
      profile := arguments.has .profile })
  | _ => none

def infoRequest? (arguments : Arguments) : Option Request :=
  match arguments.operands.reverse with
  | [compiled] => some (.describe compiled)
  | _ => none

def readCommand (lead : Arguments) (form : CommandForm) (request? : Arguments → Option Request)
    (words : List String) : Except Halt Invocation :=
  match Arguments.readAll form {} words with
  | .error halt => .error halt
  | .ok arguments =>
    match request? arguments with
    | none => .error .misuse
    | some request => .ok {
        config := (arguments.value? .config).or (lead.value? .config)
        verbosity :=
          if arguments.has .verbose then (arguments.values .verbose).length
          else (lead.values .verbose).length
        request }

def readHelp : List String → Halt
  | [] => .help
  | [name] => if commandNames.contains name then .help else .misuse
  | _ => .misuse

def Invocation.ofWords (words : List String) : Except Halt Invocation :=
  match Arguments.readOptions leadForm {} words with
  | .error halt => .error halt
  | .ok (lead, "compile" :: words) => readCommand lead compileForm compileRequest? words
  | .ok (lead, "scan" :: words) => readCommand lead scanForm scanRequest? words
  | .ok (lead, "info" :: words) => readCommand lead infoForm infoRequest? words
  | .ok (_, "help" :: words) => .error (readHelp words)
  | .ok _ => .error .misuse

end ByteScan.CommandLine
