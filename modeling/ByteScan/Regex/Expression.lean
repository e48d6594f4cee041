import ByteScan.Regex.ByteSet
import ByteScan.Regex.ByteRuns

/-!
# Meaning of regular expressions

An `Expression` says what a regular expression matches, with every flag resolved: sets of bytes or
characters, conditions on a position, sequence, choice and repetition. The branches of a choice and
the rounds of a repetition are in order of preference.
-/

namespace ByteScan.Regex

inductive WordCondition where
  | boundary
  | notBoundary
  | start
  | finish
  | startHalf
  | endHalf
  deriving DecidableEq, Repr

inductive Look where
  /-- The text begins here. -/
  | start
  /-- The text ends here. -/
  | finish
  /-- A line begins here; with `crlf`, a carriage return also ends a line. -/
  | startLine (crlf : Bool)
  /-- A line ends here; with `crlf`, a carriage return also ends a line. -/
  | endLine (crlf : Bool)
  /-- A condition on words, which are of ASCII or of Unicode characters. -/
  | word (condition : WordCondition) (unicode : Bool)
  deriving DecidableEq, Repr

inductive Expression where
  | empty
  | set (set : ByteSet)
  /-- One character of some ranges, in its UTF-8 form. -/
  | scalars (ranges : Text.ScalarRanges)
  | look (look : Look)
  | sequence (parts : List Expression)
  | choice (branches : List Expression)
  /-- A number of rounds; `greedy` prefers more of them. -/
  | repetition (least : Nat) (most : Option Nat) (greedy : Bool) (inner : Expression)
  | group (inner : Expression)
  deriving Repr, Inhabited

namespace Expression

def ofBytes (bytes : List UInt8) : Expression :=
  match bytes with
  | [byte] => .set (.singleton byte)
  | _ => .sequence (bytes.map fun byte => .set (.singleton byte))

/-- Some expressions one after another, as simply as possible. -/
def ofSequence : List Expression → Expression
  | [] => .empty
  | [part] => part
  | parts => .sequence parts

def ofChoices : List Expression → Expression
  | [] => .set .empty
  | [branch] => branch
  | branches => .choice branches

mutual

/-- Every match is the empty text, as the form of the expression shows. -/
def isWidthless : Expression → Bool
  | .empty | .look _ => true
  | .set _ | .scalars _ => false
  | .sequence parts => allWidthless parts
  | .choice branches => allWidthless branches
  | .repetition _ most _ inner => most.isSome && inner.isWidthless
  | .group inner => inner.isWidthless

def allWidthless : List Expression → Bool
  | [] => true
  | part :: parts => part.isWidthless && allWidthless parts

end

mutual

/-- Every match takes at least one byte, as the form of the expression shows. -/
def consumes : Expression → Bool
  | .empty | .look _ => false
  | .set _ | .scalars _ => true
  | .sequence parts => anyConsumes parts
  | .choice branches => allConsume branches
  | .repetition least _ _ inner => least ≠ 0 && inner.consumes
  | .group inner => inner.consumes

def anyConsumes : List Expression → Bool
  | [] => false
  | part :: parts => part.consumes || anyConsumes parts

def allConsume : List Expression → Bool
  | [] => true
  | branch :: branches => branch.consumes && allConsume branches

end

/-- A number of rounds, as simply as possible. A second round of what is always empty adds
nothing. -/
def rounds (least : Nat) (most : Option Nat) (greedy : Bool) (inner : Expression) : Expression :=
  let (least, most) :=
    if inner.isWidthless then (min least 1, some (min (most.getD 1) 1)) else (least, most)
  if least = 0 ∧ most = some 0 then .empty
  else if least = 1 ∧ most = some 1 then inner
  else .repetition least most greedy inner

end Expression

end ByteScan.Regex
