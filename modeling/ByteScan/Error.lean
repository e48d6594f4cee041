import ByteScan.Automaton.Table
import ByteScan.Condition.Instruction
import ByteScan.RuleFile.Fault

/-!
# Errors

What can go wrong when rule sets are loaded, changed and used. Each error tells its cause, and
`message` gives the wording.
-/

namespace ByteScan

inductive FileError where
  | missing
  | isDirectory
  | notDirectory
  | notText
  deriving DecidableEq, Repr

def FileError.message : FileError → String
  | .missing => "No such file or directory (os error 2)"
  | .isDirectory => "Is a directory (os error 21)"
  | .notDirectory => "Not a directory (os error 20)"
  | .notText => "stream did not contain valid UTF-8"

/-- What a caller got wrong. -/
inductive Misuse where
  | unknownExternal (name : String)
  | invalidValue (value kind name : String)
  | boundTwice (name : String)
  deriving DecidableEq, Repr

def Misuse.message : Misuse → String
  | .unknownExternal name => "no external variable named '" ++ name ++ "'"
  | .invalidValue value kind name =>
    "'" ++ value ++ "' is not a valid " ++ kind ++ " for '" ++ name ++ "'"
  | .boundTwice name => "external variable '" ++ name ++ "' bound twice"

inductive Corruption where
  | file (fault : RuleFile.Fault)
  | unreadable (fault : FileError)
  | tables (fault : Tables.Fault)
  | code (fault : CodeFault)
  | unknownString (number : Nat)
  deriving DecidableEq, Repr

def Corruption.message : Corruption → String
  | .file fault => fault.message
  | .unreadable fault => "read failed: " ++ fault.message
  | .tables fault => fault.message
  | .code fault => fault.message
  | .unknownString number => "match references unknown string " ++ toString number

inductive Error where
  | invalidArgument (misuse : Misuse)
  | insufficientMemory
  | tooManyScans
  | timeout
  | unreachableData
  | callback
  | cannotOpen (fault : FileError)
  | cannotAttach (process : Nat)
  | corrupt (corruption : Corruption)
  | unsupportedVersion
  deriving DecidableEq, Repr

def Error.message : Error → String
  | .invalidArgument misuse => "Invalid argument: " ++ misuse.message
  | .insufficientMemory => "Insufficient memory"
  | .tooManyScans => "Too many concurrent scans on the same rule set"
  | .timeout => "Scan timed out"
  | .unreachableData => "Could not map file or memory block"
  | .callback => "Callback returned an error"
  | .cannotOpen fault => "Could not open file: " ++ fault.message
  | .cannotAttach process => "Could not attach to process " ++ toString process
  | .corrupt corruption => "Corrupt compiled rules: " ++ corruption.message
  | .unsupportedVersion => "Unsupported compiled rules file version"

end ByteScan
