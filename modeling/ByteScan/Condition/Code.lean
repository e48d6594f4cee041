import ByteScan.Condition.Instruction
import ByteScan.Error
import ByteScan.Pattern.Hex

/-!
# Code of conditions

`Condition.code` turns a condition into instructions that leave its value on the stack: first the
instructions of its operands in their order, then its own. Names become numbers, and a name that
means nothing where the condition stands is an error.
-/

namespace ByteScan

inductive CompileError where
  | unknownString (rule string : String)
  /-- A condition speaks of a rule that was not declared earlier in the namespace. -/
  | unknownRule (rule reference : String)
  | unknownExternal (rule external : String)
  | duplicateRule (rule : String)
  | duplicateString (rule string : String)
  | duplicateExternal (external : String)
  | emptyString (rule string : String)
  | invalidHex (rule string : String) (fault : HexPattern.Fault)
  | invalidRegex (rule string : String) (fault : Regex.Fault)
  | noStrings (rule : String)
  | rules (error : Error)
  deriving DecidableEq, Repr

def CompileError.message : CompileError → String
  | .unknownString rule string => "Unknown string $" ++ string ++ " in rule " ++ rule
  | .unknownRule rule reference => "Unknown rule " ++ reference ++ " referenced by " ++ rule
  | .unknownExternal rule external =>
    "Unknown external variable " ++ external ++ " referenced by " ++ rule
  | .duplicateRule rule => "Duplicate rule " ++ rule
  | .duplicateString rule string => "Duplicate string $" ++ string ++ " in rule " ++ rule
  | .duplicateExternal external => "Duplicate external variable " ++ external
  | .emptyString rule string => "Empty string $" ++ string ++ " in rule " ++ rule
  | .invalidHex rule string fault =>
    "Invalid hex string $" ++ string ++ " in rule " ++ rule ++ ": " ++ fault.message
  | .invalidRegex rule string fault =>
    "Invalid regex $" ++ string ++ " in rule " ++ rule ++ ": " ++ fault.message
  | .noStrings rule => "Rule " ++ rule ++ " uses 'of them' but declares no strings"
  | .rules error => error.message

structure Scope where
  rule : String
  number : Nat
  strings : List (String × Nat)
  earlierRule? : String → Option Nat
  externals : List String

namespace Scope

def string (scope : Scope) (name : String) : Except CompileError UInt32 :=
  match scope.strings.lookup name with
  | some number => .ok (UInt32.ofNat number)
  | none => .error (.unknownString scope.rule name)

def earlierRule (scope : Scope) (name : String) : Except CompileError UInt32 :=
  match scope.earlierRule? name with
  | some number => .ok (UInt32.ofNat number)
  | none => .error (.unknownRule scope.rule name)

def external (scope : Scope) (name : String) : Except CompileError UInt32 :=
  match scope.externals.findIdx? (· == name) with
  | some index => .ok (UInt32.ofNat index)
  | none => .error (.unknownExternal scope.rule name)

def ofThem (scope : Scope) (minimum : UInt32) : Except CompileError (List Instruction) :=
  if scope.strings.isEmpty then .error (.noStrings scope.rule)
  else .ok [.ofThem (UInt32.ofNat scope.number) minimum]

end Scope

namespace Condition

/-- The instructions that leave the value of a condition on the stack. -/
def code (scope : Scope) : Condition → Except CompileError (List Instruction)
  | .truth value => .ok [.pushBoolean value]
  | .integer value => .ok [.pushInteger value]
  | .float value => .ok [.pushFloat value]
  | .text value => .ok [.pushBytes value.toUTF8.toList]
  | .found name => do
    let string ← scope.string name
    .ok [.found string]
  | .count name => do
    let string ← scope.string name
    .ok [.count string]
  | .foundAt name address => do
    let string ← scope.string name
    let address ← address.code scope
    .ok (address ++ [.foundAt string])
  | .foundIn name low high => do
    let string ← scope.string name
    let low ← low.code scope
    let high ← high.code scope
    .ok (low ++ high ++ [.foundIn string])
  | .anyOfThem => scope.ofThem 1
  | .allOfThem => scope.ofThem (UInt32.ofNat scope.strings.length)
  | .ofThem minimum => scope.ofThem minimum
  | .fileSize => .ok [.fileSize]
  | .entryPoint => .ok [.entryPoint]
  | .rule name => do
    let rule ← scope.earlierRule name
    .ok [.rule rule]
  | .external name => do
    let index ← scope.external name
    .ok [.external index]
  | .not inner => do
    let inner ← inner.code scope
    .ok (inner ++ [.not])
  | .and left right => do
    let left ← left.code scope
    let right ← right.code scope
    .ok (left ++ right ++ [.and])
  | .or left right => do
    let left ← left.code scope
    let right ← right.code scope
    .ok (left ++ right ++ [.or])
  | .compare comparison left right => do
    let left ← left.code scope
    let right ← right.code scope
    .ok (left ++ right ++ [.compare comparison])
  | .contains whole part => do
    let whole ← whole.code scope
    let part ← part.code scope
    .ok (whole ++ part ++ [.contains])

/-- The instructions that evaluate the condition of a rule and record its verdict. -/
def ruleCode (scope : Scope) (condition : Condition) : Except CompileError (List Instruction) := do
  let value ← condition.code scope
  .ok (value ++ [.verdict (UInt32.ofNat scope.number)])

end Condition

end ByteScan
