import ByteScan.Scan.Context

/-!
# Profile counters

The times that profiled scans spend on rules and strings are added up in counters which all scans of
a rule set share. A finished scan charges one counter after another, so the charges of two scans may
be mixed. A counter stops at the largest number of sixty-four bits.
-/

namespace ByteScan

structure Counters where
  rules : Array Nat
  strings : Array Nat
  deriving DecidableEq, Repr, Inhabited

/-- An addition to one counter. -/
inductive Charge where
  | rule (number : Nat) (time : Nanoseconds)
  | string (number : Nat) (time : Nanoseconds)
  deriving DecidableEq, Repr

namespace Counters

def limit : Nat := UInt64.size - 1

def zero (rules strings : Nat) : Counters := ⟨Array.replicate rules 0, Array.replicate strings 0⟩

def increase (time : Nanoseconds) (counter : Nat) : Nat := min (counter + min time limit) limit

def apply (counters : Counters) : Charge → Counters
  | .rule number time => { counters with rules := counters.rules.modify number (increase time) }
  | .string number time =>
    { counters with strings := counters.strings.modify number (increase time) }

/-- What a finished scan charges: each rule, then each string. -/
def chargesOf (counters : Counters) (context : Context) : List Charge :=
  (List.range counters.rules.size).map (fun rule => .rule rule (context.ruleTime rule)) ++
    (List.range counters.strings.size).map fun string => .string string (context.stringTime string)

def record (counters : Counters) (context : Context) : Counters :=
  (counters.chargesOf context).foldl apply counters

def ruleTime (counters : Counters) (rule : Nat) : Nanoseconds := counters.rules.getD rule 0

def stringTime (counters : Counters) (string : Nat) : Nanoseconds := counters.strings.getD string 0

def reset (counters : Counters) : Counters := zero counters.rules.size counters.strings.size

end Counters

structure RuleProfile where
  space : String
  identifier : String
  time : Nanoseconds
  deriving DecidableEq, Repr, Inhabited

def RuleProfile.text (profile : RuleProfile) : String :=
  profile.space ++ ":" ++ profile.identifier ++ ": " ++ toString (profile.time / 1000)

namespace RuleSet

def counters (rules : RuleSet) : Counters := .zero rules.rules.size rules.strings.size

def profile (rules : RuleSet) (counters : Counters) : List RuleProfile :=
  rules.rules.toList.zipIdx.map fun (rule, number) =>
    let strings := (rule.strings.map counters.stringTime).foldl Nanoseconds.add 0
    ⟨rules.spaceOf rule, rule.identifier, (counters.ruleTime number).add strings⟩

end RuleSet

end ByteScan
