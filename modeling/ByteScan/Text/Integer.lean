import ByteScan.Byte

/-!
# Integers in text

A number is an optional sign and at least one digit of the radix. Digits are taken from left to
right, and the first one that is not a digit or no longer fits decides what is wrong.
-/

namespace ByteScan.Text

inductive IntegerFault where
  | empty
  | invalidDigit
  | tooLarge
  | tooSmall
  deriving DecidableEq, Repr

def IntegerFault.message : IntegerFault → String
  | .empty => "cannot parse integer from empty string"
  | .invalidDigit => "invalid digit found in string"
  | .tooLarge => "number too large to fit in target type"
  | .tooSmall => "number too small to fit in target type"

def digitValue? (radix : Nat) (c : Char) : Option Nat :=
  match Byte.ofHexDigit? c with
  | some digit => if digit < radix then some digit else none
  | none => none

/-- Digits after a value read so far, none of which may lift it above `limit`. -/
def readDigits (radix limit : Nat) (tooFar : IntegerFault) :
    Nat → List Char → Except IntegerFault Nat
  | total, [] => .ok total
  | total, c :: rest =>
    match digitValue? radix c with
    | none => .error .invalidDigit
    | some digit =>
      let next := total * radix + digit
      if next ≤ limit then readDigits radix limit tooFar next rest else .error tooFar

/-- An integer without a minus sign that is at most `limit`; a plus sign may lead it. -/
def readUnsigned (radix limit : Nat) (text : String) : Except IntegerFault Nat :=
  match text.toList with
  | [] => .error .empty
  | ['+'] | ['-'] => .error .invalidDigit
  | '+' :: digits => readDigits radix limit .tooLarge 0 digits
  | digits => readDigits radix limit .tooLarge 0 digits

/-- An integer of either sign in two's complement of `bits` bits. -/
def readSigned (radix bits : Nat) (text : String) : Except IntegerFault Int :=
  match text.toList with
  | [] => .error .empty
  | ['+'] | ['-'] => .error .invalidDigit
  | '+' :: digits => (readDigits radix (1 <<< (bits - 1) - 1) .tooLarge 0 digits).map Int.ofNat
  | '-' :: digits =>
    (readDigits radix (1 <<< (bits - 1)) .tooSmall 0 digits).map fun total => - Int.ofNat total
  | digits => (readDigits radix (1 <<< (bits - 1) - 1) .tooLarge 0 digits).map Int.ofNat

def digits (radix number : Nat) : List Char :=
  if _bounds : 2 ≤ radix ∧ radix ≤ number then
    digits radix (number / radix) ++ [Byte.hexDigit (number % radix)]
  else [Byte.hexDigit number]
termination_by number
decreasing_by exact Nat.div_lt_self (by omega) (by omega)

def hexPadded (width number : Nat) : String :=
  let written := digits 16 number
  String.ofList (List.replicate (width - written.length) '0' ++ written)

end ByteScan.Text
