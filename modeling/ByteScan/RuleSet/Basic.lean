import ByteScan.Automaton.Basic
import ByteScan.Pattern.Basic
import ByteScan.RuleSet.External

/-!
# Compiled rule sets

A compiled rule set holds its rules and their strings under numbers, the automaton that finds
candidates for all strings, and the code of all conditions. A rule belongs to a namespace, sees the
earlier rules of it, and is void where a global rule of it does not match.
-/

namespace ByteScan

structure Rule where
  identifier : String
  space : Nat
  isPrivate : Bool
  /-- Every rule of its namespace is void where it does not match. -/
  isGlobal : Bool
  strings : List Nat
  tags : List String
  deriving DecidableEq, Repr, Inhabited

def Rule.flagBits (rule : Rule) : Nat := rule.isPrivate.toNat + 2 * rule.isGlobal.toNat

/-- Whether a rule with given flags is private and whether it is global; no other flags exist. -/
def Rule.ofFlagBits? (bits : Nat) : Option (Bool × Bool) :=
  if bits < 4 then some (bits.testBit 0, bits.testBit 1) else none

structure BacktrackSurvey where
  /-- The distance of the first candidate of each string. -/
  first : Array (Option UInt16)
  /-- For each string, whether some candidate has another distance than the first one. -/
  mixed : Array Bool

def BacktrackSurvey.add (survey : BacktrackSurvey) (candidate : Candidate) : BacktrackSurvey :=
  match survey.first[candidate.string]? with
  | none => survey
  | some none =>
    { survey with first := survey.first.setIfInBounds candidate.string (some candidate.backtrack) }
  | some (some backtrack) =>
    if backtrack = candidate.backtrack then survey
    else { survey with mixed := survey.mixed.setIfInBounds candidate.string true }

/-- For each string, whether its candidates lie at different distances from its start, so that the
candidates for one offset may come out of order. -/
def mixedBacktracks (automaton : Automaton) (strings : Nat) : Array Bool :=
  (automaton.candidates.foldl BacktrackSurvey.add
    ⟨Array.replicate strings none, Array.replicate strings false⟩).mixed

structure RuleSet where
  spaces : Array String
  rules : Array Rule
  strings : Array StringDef
  externals : List External
  automaton : Automaton
  code : List UInt8
  codeStart : Nat
  /-- For each string, whether its candidates lie at different distances from its start. -/
  mixed : Array Bool := mixedBacktracks automaton strings.size
  mixed_eq : mixed = mixedBacktracks automaton strings.size := by rfl

namespace RuleSet

def hasMixedBacktrack (rules : RuleSet) (string : Nat) : Bool := rules.mixed.getD string false

def spaceOf (rules : RuleSet) (rule : Rule) : String := rules.spaces.getD rule.space ""

def withExternals (rules : RuleSet) (externals : List External) : RuleSet :=
  { rules with externals }

/-- Gives the first external variable of a name a value. -/
def define (rules : RuleSet) (name : String) (value : ExternalValue) : Except Error RuleSet :=
  (External.redefine name value rules.externals).map rules.withExternals

/-- Gives the first external variable of a name the value of its kind that a text stands for. -/
def defineFromText (rules : RuleSet) (name text : String) : Except Error RuleSet :=
  (External.redefineFromText name text rules.externals).map rules.withExternals

def summary (rules : RuleSet) : String :=
  let counts : List (String × Nat) :=
    [("namespaces", rules.spaces.size), ("rules", rules.rules.size),
      ("strings", rules.strings.size), ("externals", rules.externals.length),
      ("states", rules.automaton.stateCount), ("code", rules.code.length)]
  let fields := counts.map fun entry => entry.1 ++ ": " ++ toString entry.2
  "Rules \x7b " ++ ", ".intercalate fields ++ " \x7d"

end RuleSet

end ByteScan
