import ByteScan.Condition.Value
import ByteScan.Scan.Match
import Mathlib.Data.List.Infix

/-!
# The meaning of conditions

`Condition.eval` gives the value of a condition by recursion over it, from what its names stand for.
It does not know of code: `stackNeed` and `LiteralsFit` are what the code asks of a condition.
-/

namespace ByteScan

/-- What the names in the condition of a rule stand for, and the data as a whole. -/
structure Meaning where
  /-- The matches of the string of a name. -/
  matchesOf : String → List Match
  /-- The matches of each string of the rule. -/
  ownMatches : List (List Match)
  /-- The verdict on the earlier rule of a name. -/
  verdict : String → Bool
  object : String → Value
  fileSize : UInt64
  entryPoint : Option UInt64

def Match.place (found : Match) : Int64 := Int64.ofNat (found.base.toNat + found.offset)

namespace Condition

def eval (meaning : Meaning) : Condition → Value
  | .truth value => .boolean value
  | .integer value => .integer value
  | .float value => .float value
  | .text value => .bytes value.toUTF8.toList
  | .found name => .boolean (!(meaning.matchesOf name).isEmpty)
  | .count name => .integer (Int64.ofNat (meaning.matchesOf name).length)
  | .foundAt name address =>
    match address.eval meaning with
    | .integer address => .boolean ((meaning.matchesOf name).any fun found => found.place == address)
    | _ => .undefined
  | .foundIn name low high =>
    match low.eval meaning, high.eval meaning with
    | .integer low, .integer high => .boolean ((meaning.matchesOf name).any fun found =>
        low ≤ found.place && found.place ≤ high)
    | _, _ => .undefined
  | .anyOfThem => .boolean (meaning.ownMatches.any fun found => !found.isEmpty)
  | .allOfThem => .boolean (meaning.ownMatches.all fun found => !found.isEmpty)
  | .ofThem minimum =>
    .boolean (minimum.toNat ≤ meaning.ownMatches.countP fun found => !found.isEmpty)
  | .fileSize => .integer meaning.fileSize.toInt64
  | .entryPoint =>
    match meaning.entryPoint with
    | some address => .integer address.toInt64
    | none => .undefined
  | .rule name => .boolean (meaning.verdict name)
  | .external name => meaning.object name
  | .not inner =>
    match inner.eval meaning with
    | .undefined => .undefined
    | value => .boolean (!value.isTruthy)
  | .and left right =>
    .boolean ((left.eval meaning).isTruthy && (right.eval meaning).isTruthy)
  | .or left right =>
    .boolean ((left.eval meaning).isTruthy || (right.eval meaning).isTruthy)
  | .compare comparison left right =>
    match (left.eval meaning).order? (right.eval meaning) with
    | some order => .boolean (comparison.holds order)
    | none => .undefined
  | .contains whole part =>
    match whole.eval meaning, part.eval meaning with
    | .bytes whole, .bytes part => .boolean (decide (part <:+: whole))
    | _, _ => .undefined

/-- How many values are on the stack at once while a condition is evaluated. -/
def stackNeed : Condition → Nat
  | .foundAt _ inner | .not inner => inner.stackNeed
  | .foundIn _ left right | .and left right | .or left right | .compare _ left right
  | .contains left right => max left.stackNeed (right.stackNeed + 1)
  | _ => 1

/-- The lengths of all texts in a condition are words of thirty-two bits. -/
def LiteralsFit : Condition → Prop
  | .text value => value.toUTF8.toList.length < UInt32.size
  | .foundAt _ inner | .not inner => inner.LiteralsFit
  | .foundIn _ left right | .and left right | .or left right | .compare _ left right
  | .contains left right => left.LiteralsFit ∧ right.LiteralsFit
  | _ => True

theorem stackNeed_pos (condition : Condition) : 0 < condition.stackNeed := by
  induction condition with
  | foundAt name inner ih => exact ih
  | not inner ih => exact ih
  | foundIn name left right ihLeft ihRight => exact Nat.lt_of_lt_of_le ihLeft (Nat.le_max_left _ _)
  | and left right ihLeft ihRight => exact Nat.lt_of_lt_of_le ihLeft (Nat.le_max_left _ _)
  | or left right ihLeft ihRight => exact Nat.lt_of_lt_of_le ihLeft (Nat.le_max_left _ _)
  | compare comparison left right ihLeft ihRight => exact Nat.lt_of_lt_of_le ihLeft (Nat.le_max_left _ _)
  | contains left right ihLeft ihRight => exact Nat.lt_of_lt_of_le ihLeft (Nat.le_max_left _ _)
  | _ => exact Nat.one_pos

end Condition

theorem Value.occursIn_eq (part whole : List UInt8) :
    Value.occursIn part whole = decide (part <:+: whole) := by
  induction whole with
  | nil =>
      cases part with
      | nil => rfl
      | cons byte rest => simp [Value.occursIn]
  | cons byte rest ih =>
      rw [Value.occursIn, ih, Bool.eq_iff_iff, Bool.or_eq_true, decide_eq_true_eq,
        decide_eq_true_eq, List.isPrefixOf_iff_prefix, List.infix_cons_iff]

end ByteScan
