import ByteScan.CommandLine.Invocation
import ByteScan.CommandLine.Outcome
import ByteScan.RuleFile.Stored
import ByteScan.RuleSet.Compilation
import ByteScan.RuleSet.DeclarationJson
import ByteScan.Text.Quantity

/-!
# Compiling from the command line

A description of rules is read from one file, and the compiled rules are saved to another one.
-/

namespace ByteScan.CommandLine

def readDescription (tree : FileTree) (path : String) : Except DescriptionError RuleSetDecl :=
  match readText tree path with
  | .error fault => .error (.unreadable fault)
  | .ok text =>
    match RuleSetDecl.ofText? text with
    | some decl => .ok decl
    | none => .error .malformed

/-- Compiles a description; gives what is printed, and the files afterwards. -/
def compileFile (tree : FileTree) (request : CompileRequest) :
    Except Failure (String × FileTree) := do
  let decl ← during ("failed to read " ++ request.rules) DescriptionError.causes
    (readDescription tree request.rules)
  let rules ← during "compilation failed" CompileError.causes (Collection.ofDecl decl).compile
  let saved := rules.save .empty tree request.output
  let () ← during ("failed to write " ++ request.output) Error.causes
    (saved.1.get (rules.isSome_save_idle tree request.output))
  let count := Text.counted rules.rules.size "rule" "rules"
  .ok (successMark ++ " Compiled " ++ count ++ " into " ++ request.output ++ "\n", saved.2)

end ByteScan.CommandLine
