import ByteScan.Condition.Basic

/-!
# Values of conditions

Evaluating a condition gives a value. Where a question has no answer, such as the entry point of
data that is no program or the order of a text and a number, the value is undefined.
-/

namespace ByteScan

inductive Value where
  | undefined
  | integer (value : Int64)
  | float (value : Binary64)
  | boolean (value : Bool)
  | bytes (value : List UInt8)
  deriving DecidableEq, Repr, Inhabited

namespace Value

/-- The value counts as true. An undefined value does not, and a number that is not zero does. -/
def isTruthy : Value → Bool
  | .undefined => false
  | .integer value => value != 0
  | .float value => !value.isZero
  | .boolean value => value
  | .bytes value => !value.isEmpty

/-- How two values compare. Integers and other numbers are compared as numbers, and values of other
kinds only with values of the same kind. -/
def order? : Value → Value → Option Ordering
  | .integer left, .integer right => some (compare left.toInt right.toInt)
  | .integer left, .float right => (Binary64.ofInt left.toInt).compare? right
  | .float left, .integer right => left.compare? (Binary64.ofInt right.toInt)
  | .float left, .float right => left.compare? right
  | .bytes left, .bytes right => some (compareOfLessAndEq left right)
  | .boolean left, .boolean right => some (compare left.toNat right.toNat)
  | _, _ => none

def compare (comparison : Comparison) (left right : Value) : Value :=
  match left.order? right with
  | some order => .boolean (comparison.holds order)
  | none => .undefined

def not : Value → Value
  | .undefined => .undefined
  | value => .boolean (!value.isTruthy)

def and (left right : Value) : Value := .boolean (left.isTruthy && right.isTruthy)

def or (left right : Value) : Value := .boolean (left.isTruthy || right.isTruthy)

def occursIn (part : List UInt8) : List UInt8 → Bool
  | [] => part.isEmpty
  | byte :: rest => part.isPrefixOf (byte :: rest) || occursIn part rest

def contains : Value → Value → Value
  | .bytes whole, .bytes part => .boolean (occursIn part whole)
  | _, _ => .undefined

end Value

end ByteScan
