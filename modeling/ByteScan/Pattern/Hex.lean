import ByteScan.Byte
import ByteScan.Text.Blank
import ByteScan.Text.Integer

/-!
# Hex patterns

A hex pattern is a sequence of bytes, of each of which some bits are given and the others are free.
It is written as pairs of hexadecimal digits, where a question mark leaves a digit free, and jumps
in brackets over a fixed number of free bytes. Blanks are ignored everywhere.
-/

namespace ByteScan

/-- A byte of which the bits of `mask` are given. -/
structure MaskedByte where
  /-- The given bits; the others are zero in a byte that can occur. -/
  value : UInt8
  mask : UInt8
  deriving DecidableEq, Repr, Inhabited

namespace MaskedByte

def admits (expected : MaskedByte) (byte : UInt8) : Bool :=
  byte &&& expected.mask == expected.value

def isFixed (expected : MaskedByte) : Bool := expected.mask == 0xff

def wildcard : MaskedByte := ⟨0, 0⟩

end MaskedByte

namespace HexPattern

def jumpLimit : Nat := 32767

/-- How long a pattern may be where a jump ends. -/
def lengthLimit : Nat := 65535

inductive Fault where
  | unterminatedJump
  | invalidJump (text : String)
  | variableJump (text : String)
  | longJump (text : String)
  /-- The pattern is longer than the limit where a jump ends. -/
  | tooLong
  | alternatives
  | danglingDigit (digit : Char)
  | invalidDigit (digit : Char)
  deriving DecidableEq, Repr

def Fault.message : Fault → String
  | .unterminatedJump => "unterminated jump"
  | .invalidJump text => "invalid jump [" ++ text ++ "]"
  | .variableJump text => "variable jump [" ++ text ++ "] is not supported"
  | .longJump text => "jump [" ++ text ++ "] exceeds 32767 bytes"
  | .tooLong => "hex string longer than 65535 bytes"
  | .alternatives => "alternatives are not supported"
  | .danglingDigit digit => "dangling nibble '" ++ digit.toString ++ "'"
  | .invalidDigit digit => "invalid hex digit '" ++ digit.toString ++ "'"

def readNibble (digit : Char) : Except Fault (Nat × Nat) :=
  if digit = '?' then .ok (0, 0)
  else
    match Byte.ofHexDigit? digit with
    | some value => .ok (value, 0xf)
    | none => .error (.invalidDigit digit)

def readPair (high low : Char) : Except Fault MaskedByte := do
  let (highValue, highMask) ← readNibble high
  let (lowValue, lowMask) ← readNibble low
  .ok ⟨UInt8.ofNat (highValue * 16 + lowValue), UInt8.ofNat (highMask * 16 + lowMask)⟩

/-- The numbers of a jump: those before and after the first hyphen, or twice the same one. -/
def readBounds (text : List Char) : Except Text.IntegerFault (Nat × Nat) := do
  let read (digits : List Char) := Text.readUnsigned 10 (UInt64.size - 1) (String.ofList digits)
  match text.span (· ≠ '-') with
  | (low, _ :: high) =>
    let low ← read low
    let high ← read high
    .ok (low, high)
  | (both, []) =>
    let bound ← read both
    .ok (bound, bound)

/-- How many bytes a jump skips that begins after `count` bytes of the pattern. -/
def readJump (text : List Char) (count : Nat) : Except Fault Nat :=
  match readBounds text with
  | .error _ => .error (.invalidJump (String.ofList text))
  | .ok (low, high) =>
    if low ≠ high then .error (.variableJump (String.ofList text))
    else if jumpLimit < low then .error (.longJump (String.ofList text))
    else if lengthLimit < count + low then .error .tooLong
    else .ok low

mutual

/-- Reads text without blanks. The bytes read so far come last first, with their number. -/
def readTokens (read : List MaskedByte) (count : Nat) : List Char → Except Fault (List MaskedByte)
  | [] => .ok read.reverse
  | c :: rest =>
    if c = '[' then readJumpTail read count [] rest
    else if c = '(' ∨ c = '|' ∨ c = ')' then .error .alternatives
    else
      match rest with
      | [] => .error (.danglingDigit c)
      | low :: rest =>
        match readPair c low with
        | .ok byte => readTokens (byte :: read) (count + 1) rest
        | .error fault => .error fault

/-- Reads the rest of a jump, the text of which so far comes last character first. -/
def readJumpTail (read : List MaskedByte) (count : Nat) (text : List Char) :
    List Char → Except Fault (List MaskedByte)
  | [] => .error .unterminatedJump
  | c :: rest =>
    if c = ']' then
      match readJump text.reverse count with
      | .ok length =>
        readTokens (List.replicate length .wildcard ++ read) (count + length) rest
      | .error fault => .error fault
    else readJumpTail read count (c :: text) rest

end

def ofText (source : String) : Except Fault (List MaskedByte) :=
  readTokens [] 0 (source.toList.filter fun c => !Text.isBlank c)

end HexPattern

end ByteScan
