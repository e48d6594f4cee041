import ByteScan.Binary64.Basic

/-!
# Conditions of rules

A condition says when a rule matches. It speaks of the strings of its own rule, of rules declared
earlier in the same namespace, of variables that are defined from outside, and of the scanned data
as a whole.
-/

namespace ByteScan

inductive Comparison where
  | equal | notEqual | lessThan | lessEqual | greaterThan | greaterEqual
  deriving DecidableEq, Repr

def Comparison.holds : Comparison → Ordering → Bool
  | .equal, order => order == .eq
  | .notEqual, order => order != .eq
  | .lessThan, order => order == .lt
  | .lessEqual, order => order != .gt
  | .greaterThan, order => order == .gt
  | .greaterEqual, order => order != .lt

inductive Condition where
  | truth (value : Bool)
  | integer (value : Int64)
  | float (value : Binary64)
  | text (value : String)
  | found (string : String)
  | count (string : String)
  | foundAt (string : String) (address : Condition)
  | foundIn (string : String) (low high : Condition)
  | anyOfThem
  | allOfThem
  | ofThem (minimum : UInt32)
  | fileSize
  /-- The entry point of the data, if it is a program. -/
  | entryPoint
  | rule (name : String)
  | external (name : String)
  | not (inner : Condition)
  | and (left right : Condition)
  | or (left right : Condition)
  | compare (comparison : Comparison) (left right : Condition)
  | contains (whole part : Condition)
  deriving DecidableEq, Repr, Inhabited

end ByteScan
