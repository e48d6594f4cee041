import ByteScan.CommandLine.Compiling
import ByteScan.CommandLine.Scanning

/-!
# The command line program

`run` follows the words of a command line on a machine, and gives what is printed and the files
afterwards.
-/

namespace ByteScan.CommandLine

def versionText : String := "rulescan 1.0.0\n"

def helpText : String := linesText [
  "Multi-pattern rule scanner for files and process memory", "",
  "Usage: rulescan [OPTIONS] <COMMAND>", "",
  "Commands:",
  "  compile  Compile a JSON rule description",
  "  scan     Scan files, directories or processes with compiled rules",
  "  info     Describe a compiled rules file",
  "  help     Print this message or the help of the given subcommand(s)"]

def Halt.outcome : Halt → Outcome
  | .misuse => { code := 2, errors := helpText }
  | .help => { output := helpText }
  | .version => { output := versionText }

def settingsOf (tree : FileTree) (invocation : Invocation) : Except Failure Settings :=
  match invocation.config with
  | none => .ok {}
  | some path => during ("failed to load " ++ path) SettingsError.causes (readSettings tree path)

def perform (machine : Machine) (clock : Clock) (invocation : Invocation) :
    Except Failure (Outcome × FileTree) := do
  let settings ← settingsOf machine.tree invocation
  match invocation.request with
  | .compile request =>
    let (output, tree) ← compileFile machine.tree request
    .ok ({ output }, tree)
  | .scan request =>
    let outcome ← scanRequested machine settings clock request
    .ok (outcome, machine.tree)
  | .describe compiled =>
    let output ← describeFile machine.tree compiled
    .ok ({ output }, machine.tree)

def run (machine : Machine) (clock : Clock) (words : List String) : Outcome × FileTree :=
  match Invocation.ofWords words with
  | .error halt => (halt.outcome, machine.tree)
  | .ok invocation =>
    match perform machine clock invocation with
    | .ok done => done
    | .error failure => (failure.outcome, machine.tree)

end ByteScan.CommandLine
