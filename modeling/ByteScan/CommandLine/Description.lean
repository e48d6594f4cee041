import ByteScan.CommandLine.Outcome
import ByteScan.RuleFile.Stored
import ByteScan.Text.Quantity

/-!
# Descriptions of compiled rules

What a file of compiled rules holds, in lines for people to read.
-/

namespace ByteScan.CommandLine

def tagsText (tags : List String) : String := "[" ++ ",".intercalate tags ++ "]"

def sizeLines (rules : RuleSet) : List String :=
  let hidden := rules.rules.toList.countP Rule.isPrivate
  let global := rules.rules.toList.countP Rule.isGlobal
  ["  Namespaces: " ++ toString rules.spaces.size,
    "  Rules: " ++ toString rules.rules.size ++ " (" ++ toString hidden ++ " private, " ++
      toString global ++ " global)",
    "  Strings: " ++ toString rules.strings.size,
    "  Automaton states: " ++ toString rules.automaton.stateCount,
    "  Transition cells: " ++ toString rules.automaton.cells.size,
    "  Code: " ++ Text.byteSize rules.code.length]

def externalLines (rules : RuleSet) : List String :=
  if rules.externals.isEmpty then []
  else
    ["", "Externals:"] ++ rules.externals.map fun external =>
      "  " ++ external.identifier ++ " = " ++ external.value.display ++ " (" ++
        external.value.kind ++ ")"

def ruleLine (rules : RuleSet) (rule : Rule) : String :=
  let tags := if rule.tags.isEmpty then "" else " " ++ tagsText rule.tags
  let flags := (if rule.isPrivate then ["private"] else []) ++
    if rule.isGlobal then ["global"] else []
  let flagsText := if flags.isEmpty then "" else " (" ++ ", ".intercalate flags ++ ")"
  "  " ++ rules.spaceOf rule ++ ":" ++ rule.identifier ++ tags ++ flagsText ++ " - " ++
    Text.counted rule.strings.length "string" "strings"

def descriptionLines (path : String) (size : Nat) (rules : RuleSet) : List String :=
  ["Compiled rules", String.ofList (List.replicate 40 '-'),
    "  File: " ++ path ++ " (" ++ Text.byteSize size ++ ")"] ++
  sizeLines rules ++ externalLines rules ++ ["", "Rules:"] ++
  rules.rules.toList.map (ruleLine rules)

def loadRules (tree : FileTree) (path : String) : Except Failure RuleSet :=
  during ("failed to load " ++ path) Error.causes (RuleSet.load tree path)

/-- The size of a file; a directory counts as empty. -/
def fileSize (tree : FileTree) (path : String) : Nat :=
  match tree.find path with
  | .ok (_, .file content) => content.size
  | _ => 0

def linesText (lines : List String) : String := String.join (lines.map (· ++ "\n"))

def describeFile (tree : FileTree) (path : String) : Except Failure String := do
  let rules ← loadRules tree path
  .ok (linesText (descriptionLines path (fileSize tree path) rules))

end ByteScan.CommandLine
