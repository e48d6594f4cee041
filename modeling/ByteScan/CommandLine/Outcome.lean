import ByteScan.Condition.Code
import ByteScan.FileTree
import ByteScan.Settings

/-!
# Outcomes of the command line

What a command prints and whether it succeeds. A failure is told as a chain of causes, each one
behind the one that it led to.
-/

namespace ByteScan

def Error.causes : Error → List String
  | .cannotOpen fault => [Error.message (.cannotOpen fault), fault.message]
  | error => [error.message]

def CompileError.causes : CompileError → List String
  | .rules error => error.causes
  | .invalidRegex rule string fault =>
    [CompileError.message (.invalidRegex rule string fault), fault.message]
  | error => [error.message]

def SettingsError.causes : SettingsError → List String
  | .unreadable fault => [SettingsError.message (.unreadable fault), fault.message]
  | error => [error.message]

inductive DescriptionError where
  | unreadable (fault : FileError)
  | malformed
  deriving DecidableEq, Repr

def DescriptionError.causes : DescriptionError → List String
  | .unreadable fault => ["Could not read rule description: " ++ fault.message, fault.message]
  | .malformed => ["Invalid rule description: unexpected JSON"]

namespace CommandLine

/-- What a command has printed, and the code with which it ends. -/
structure Outcome where
  code : Nat := 0
  output : String := ""
  errors : String := ""
  /-- What is printed above the display of progress, if there is one. -/
  progress : String := ""
  deriving DecidableEq, Repr, Inhabited

/-- A chain of causes, the outermost first. -/
abbrev Failure := List String

def failureMark : String := "[!]"

def successMark : String := "[+]"

def Failure.outcome (failure : Failure) : Outcome where
  code := 1
  errors := failureMark ++ " " ++ ": ".intercalate failure ++ "\n"

/-- Puts what was being done before the causes of a failure. -/
def during (activity : String) (causes : α → List String) (result : Except α β) :
    Except Failure β :=
  result.mapError fun error => activity :: causes error

def readText (tree : FileTree) (path : String) : Except FileError String :=
  match tree.find path with
  | .error fault => .error fault
  | .ok (_, .directory) => .error .isDirectory
  | .ok (_, .file content) =>
    match String.fromUTF8? content with
    | some text => .ok text
    | none => .error .notText

def readSettings (tree : FileTree) (path : String) : Except SettingsError Settings :=
  match readText tree path with
  | .error fault => .error (.unreadable fault)
  | .ok text => Settings.ofText text

end CommandLine

end ByteScan
