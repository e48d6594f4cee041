/-!
# Syntax of regular expressions

The parts of a regular expression as they are written. Flags are not resolved here: what a dot, a
class or an anchor means is decided where the expression is given its meaning.
-/

namespace ByteScan.Regex

inductive Flag where
  /-- `i`: letters match in either case. -/
  | caseless
  /-- `m`: the anchors `^` and `$` also match at lines. -/
  | multiLine
  /-- `s`: a dot also matches a line feed. -/
  | dotAll
  /-- `U`: plain repetitions prefer few rounds. -/
  | swapGreed
  /-- `u`: characters are Unicode scalar values rather than bytes. -/
  | unicode
  /-- `R`: a carriage return also ends a line. -/
  | crlf
  /-- `x`: blanks and comments in the expression are ignored. -/
  | verbose
  deriving DecidableEq, Repr

/-- Flags in the order written, each with whether it is set. -/
abbrev Flags := List (Flag × Bool)

structure Literal where
  char : Char
  /-- It was written as `\x` and two digits, which may stand for a byte. -/
  isByte : Bool
  deriving DecidableEq, Repr

inductive EscapeClass where
  /-- `\d`. -/
  | digit
  /-- `\s`. -/
  | space
  /-- `\w`. -/
  | word
  deriving DecidableEq, Repr

inductive NamedClass where
  | alnum | alpha | ascii | blank | cntrl | digit | graph | lower | print | punct | space | upper
  | word | xdigit
  deriving DecidableEq, Repr

inductive Anchor where
  /-- `^`. -/
  | startLine
  /-- `$`. -/
  | endLine
  /-- `\A`. -/
  | startText
  /-- `\z`. -/
  | endText
  /-- `\b`. -/
  | wordBoundary
  /-- `\B`. -/
  | notWordBoundary
  /-- `\<` or `\b{start}`. -/
  | wordStart
  /-- `\>` or `\b{end}`. -/
  | wordEnd
  /-- `\b{start-half}`. -/
  | wordStartHalf
  /-- `\b{end-half}`. -/
  | wordEndHalf
  deriving DecidableEq, Repr

inductive ClassOperator where
  /-- `&&`. -/
  | intersection
  /-- `--`. -/
  | difference
  /-- `~~`. -/
  | symmetricDifference
  deriving DecidableEq, Repr

inductive ClassSyntax where
  | empty
  | literal (literal : Literal)
  | range (first last : Literal)
  | named (kind : NamedClass) (negated : Bool)
  | escape (kind : EscapeClass) (negated : Bool)
  | property (name : String) (negated : Bool)
  | bracketed (negated : Bool) (content : ClassSyntax)
  | union (parts : List ClassSyntax)
  | combined (operator : ClassOperator) (left right : ClassSyntax)
  deriving Repr, Inhabited

inductive Syntax where
  | empty
  | flags (flags : Flags)
  | literal (literal : Literal)
  | dot
  | anchor (anchor : Anchor)
  | escape (kind : EscapeClass) (negated : Bool)
  | property (name : String) (negated : Bool)
  | bracketed (negated : Bool) (content : ClassSyntax)
  /-- Repetition between bounds; `greedy` is as written, before any flag. -/
  | repetition (least : Nat) (most : Option Nat) (greedy : Bool) (inner : Syntax)
  /-- A group with flags of its own; a capturing one has a number. -/
  | group (capturing : Bool) (flags : Flags) (inner : Syntax)
  | alternation (branches : List Syntax)
  | concatenation (parts : List Syntax)
  deriving Repr, Inhabited

def Syntax.ofParts : List Syntax → Syntax
  | [] => .empty
  | [part] => part
  | parts => .concatenation parts

def Syntax.ofBranches : List Syntax → Syntax
  | [branch] => branch
  | branches => .alternation branches

def ClassSyntax.ofParts : List ClassSyntax → ClassSyntax
  | [] => .empty
  | [part] => part
  | parts => .union parts

inductive Fault where
  | groupUnclosed
  | groupUnopened
  | groupName
  | flags
  | repetitionMissing
  | repetitionBounds
  | escape
  | classUnclosed
  | classRange
  | classEscape
  | backreference
  | lookAround
  | nesting
  /-- A character beyond ASCII in a class of bytes, or a property of characters, needs the Unicode
  flag. -/
  | unicode
  | property
  | size
  deriving DecidableEq, Repr

def Fault.message : Fault → String
  | .groupUnclosed => "unclosed group"
  | .groupUnopened => "unopened group"
  | .groupName => "invalid capture group name"
  | .flags => "invalid flags"
  | .repetitionMissing => "repetition operator missing expression"
  | .repetitionBounds => "invalid repetition count"
  | .escape => "unrecognized escape sequence"
  | .classUnclosed => "unclosed character class"
  | .classRange => "invalid character class range"
  | .classEscape => "invalid escape sequence found in character class"
  | .backreference => "backreferences are not supported"
  | .lookAround => "look-around is not supported"
  | .nesting => "exceeds the nest limit"
  | .unicode => "Unicode not allowed here"
  | .property => "Unicode property not found"
  | .size => "compiled regex exceeds size limit"

end ByteScan.Regex
