import ByteScan.Condition.Basic
import ByteScan.Length
import ByteScan.LittleEndian

/-!
# Condition code

Conditions are stored as code for a machine with a stack of values. An instruction is a byte that
tells its kind, followed by its operands in little-endian form. `decode` is the counterpart of
`encode`; it also refuses the number of a string or rule that does not exist.
-/

namespace ByteScan

/-- A step of the machine that evaluates conditions. -/
inductive Instruction where
  | halt
  | pushInteger (value : Int64)
  | pushFloat (value : Binary64)
  | pushBoolean (value : Bool)
  | pushUndefined
  | pushBytes (value : List UInt8)
  | found (string : UInt32)
  | count (string : UInt32)
  | foundAt (string : UInt32)
  | foundIn (string : UInt32)
  /-- Puts on the stack whether enough strings of a rule occur. -/
  | ofThem (rule minimum : UInt32)
  | fileSize
  | entryPoint
  | rule (rule : UInt32)
  | external (index : UInt32)
  | not
  | and
  | or
  | compare (comparison : Comparison)
  | contains
  /-- Takes the value of a rule's condition and records what follows from it. -/
  | verdict (rule : UInt32)
  deriving DecidableEq, Repr, Inhabited

namespace Instruction

def comparisonCode : Comparison → UInt8
  | .equal => 0x40
  | .notEqual => 0x41
  | .lessThan => 0x42
  | .lessEqual => 0x43
  | .greaterThan => 0x44
  | .greaterEqual => 0x45

def word (number : UInt32) : List UInt8 := LittleEndian.encode 4 number.toNat

def longWord (number : UInt64) : List UInt8 := LittleEndian.encode 8 number.toNat

def encode : Instruction → List UInt8
  | .halt => [0x00]
  | .pushInteger value => 0x01 :: longWord value.toUInt64
  | .pushFloat value => 0x02 :: longWord value.bits
  | .pushBoolean value => [0x03, if value then 1 else 0]
  | .pushUndefined => [0x04]
  | .pushBytes value => 0x05 :: (word (UInt32.ofNat value.length) ++ value)
  | .found string => 0x10 :: word string
  | .count string => 0x11 :: word string
  | .foundAt string => 0x12 :: word string
  | .foundIn string => 0x13 :: word string
  | .ofThem owner minimum => 0x14 :: (word owner ++ word minimum)
  | .fileSize => [0x20]
  | .entryPoint => [0x21]
  | .rule number => 0x22 :: word number
  | .external index => 0x23 :: word index
  | .not => [0x30]
  | .and => [0x31]
  | .or => [0x32]
  | .compare comparison => [comparisonCode comparison]
  | .contains => [0x46]
  | .verdict number => 0x50 :: word number

end Instruction

def encodeAll (instructions : List Instruction) : List UInt8 :=
  instructions.flatMap Instruction.encode

inductive CodeFault where
  | truncated (position : Nat)
  | unknownKind (byte : UInt8) (position : Nat)
  | unknownString (number : Nat)
  | unknownRule (number : Nat)
  | unknownExternal (index : Nat)
  | stackOverflow
  | stackUnderflow
  deriving DecidableEq, Repr

def CodeFault.message : CodeFault → String
  | .truncated position => "truncated instruction at " ++ toString position
  | .unknownKind byte position =>
    "unknown opcode 0x" ++ Byte.hexText [byte] ++ " at " ++ toString position
  | .unknownString number => "unknown string " ++ toString number ++ " in code"
  | .unknownRule number => "unknown rule " ++ toString number ++ " in code"
  | .unknownExternal index => "unknown external " ++ toString index ++ " in code"
  | .stackOverflow => "stack overflow"
  | .stackUnderflow => "stack underflow"

structure CodePlace where
  position : Nat
  rest : List UInt8
  deriving DecidableEq, Repr

namespace CodePlace

def takeBytes (count : Nat) (place : CodePlace) : Except CodeFault (List UInt8 × CodePlace) :=
  if hasAtLeast count place.rest then
    .ok (place.rest.take count, ⟨place.position + count, place.rest.drop count⟩)
  else .error (.truncated place.position)

def takeWord (place : CodePlace) : Except CodeFault (UInt32 × CodePlace) := do
  let (bytes, place) ← place.takeBytes 4
  .ok (UInt32.ofNat (LittleEndian.value bytes), place)

def takeLongWord (place : CodePlace) : Except CodeFault (UInt64 × CodePlace) := do
  let (bytes, place) ← place.takeBytes 8
  .ok (UInt64.ofNat (LittleEndian.value bytes), place)

def takeString (strings : Nat) (place : CodePlace) : Except CodeFault (UInt32 × CodePlace) := do
  let (number, place) ← place.takeWord
  if number.toNat < strings then .ok (number, place) else .error (.unknownString number.toNat)

def takeRule (rules : Nat) (place : CodePlace) : Except CodeFault (UInt32 × CodePlace) := do
  let (number, place) ← place.takeWord
  if number.toNat < rules then .ok (number, place) else .error (.unknownRule number.toNat)

def takeInstruction (strings rules : Nat) (place : CodePlace) :
    Except CodeFault (Instruction × CodePlace) :=
  match place.rest with
  | [] => .error (.truncated place.position)
  | kind :: rest =>
    let operands : CodePlace := ⟨place.position + 1, rest⟩
    match kind.toNat with
    | 0x00 => .ok (.halt, operands)
    | 0x01 => do
      let (value, place) ← operands.takeLongWord
      .ok (.pushInteger value.toInt64, place)
    | 0x02 => do
      let (value, place) ← operands.takeLongWord
      .ok (.pushFloat ⟨value⟩, place)
    | 0x03 => do
      let (bytes, place) ← operands.takeBytes 1
      .ok (.pushBoolean (LittleEndian.value bytes ≠ 0), place)
    | 0x04 => .ok (.pushUndefined, operands)
    | 0x05 => do
      let (length, place) ← operands.takeWord
      let (bytes, place) ← place.takeBytes length.toNat
      .ok (.pushBytes bytes, place)
    | 0x10 => do
      let (string, place) ← operands.takeString strings
      .ok (.found string, place)
    | 0x11 => do
      let (string, place) ← operands.takeString strings
      .ok (.count string, place)
    | 0x12 => do
      let (string, place) ← operands.takeString strings
      .ok (.foundAt string, place)
    | 0x13 => do
      let (string, place) ← operands.takeString strings
      .ok (.foundIn string, place)
    | 0x14 => do
      let (rule, place) ← operands.takeRule rules
      let (minimum, place) ← place.takeWord
      .ok (.ofThem rule minimum, place)
    | 0x20 => .ok (.fileSize, operands)
    | 0x21 => .ok (.entryPoint, operands)
    | 0x22 => do
      let (rule, place) ← operands.takeRule rules
      .ok (.rule rule, place)
    | 0x23 => do
      let (index, place) ← operands.takeWord
      .ok (.external index, place)
    | 0x30 => .ok (.not, operands)
    | 0x31 => .ok (.and, operands)
    | 0x32 => .ok (.or, operands)
    | 0x40 => .ok (.compare .equal, operands)
    | 0x41 => .ok (.compare .notEqual, operands)
    | 0x42 => .ok (.compare .lessThan, operands)
    | 0x43 => .ok (.compare .lessEqual, operands)
    | 0x44 => .ok (.compare .greaterThan, operands)
    | 0x45 => .ok (.compare .greaterEqual, operands)
    | 0x46 => .ok (.contains, operands)
    | 0x50 => do
      let (rule, place) ← operands.takeRule rules
      .ok (.verdict rule, place)
    | _ => .error (.unknownKind kind place.position)

end CodePlace

end ByteScan
