import ByteScan.Regex.Syntax
import ByteScan.Regex.Expression
import ByteScan.Text.Case
import ByteScan.Text.PropertyName

/-!
# From syntax to meaning

`Syntax.meaning` gives the expression that a text stands for. It resolves the flags, which change
what letters, dots, classes and anchors match, and it refuses what the flags in force do not allow.
-/

namespace ByteScan.Regex

open Text (ScalarRanges)

structure Mode where
  caseless : Bool
  multiLine : Bool := false
  dotAll : Bool := false
  swapGreed : Bool := false
  unicode : Bool := false
  crlf : Bool := false
  deriving DecidableEq, Repr

def Mode.set (mode : Mode) (flag : Flag) (value : Bool) : Mode :=
  match flag with
  | .caseless => { mode with caseless := value }
  | .multiLine => { mode with multiLine := value }
  | .dotAll => { mode with dotAll := value }
  | .swapGreed => { mode with swapGreed := value }
  | .unicode => { mode with unicode := value }
  | .crlf => { mode with crlf := value }
  | .verbose => mode

def Mode.apply (mode : Mode) (flags : Flags) : Mode :=
  flags.foldl (fun mode entry => mode.set entry.1 entry.2) mode

def NamedClass.ranges : NamedClass → ScalarRanges
  | .alnum => [(0x30, 0x39), (0x41, 0x5a), (0x61, 0x7a)]
  | .alpha => [(0x41, 0x5a), (0x61, 0x7a)]
  | .ascii => [(0, 0x7f)]
  | .blank => [(9, 9), (0x20, 0x20)]
  | .cntrl => [(0, 0x1f), (0x7f, 0x7f)]
  | .digit => [(0x30, 0x39)]
  | .graph => [(0x21, 0x7e)]
  | .lower => [(0x61, 0x7a)]
  | .print => [(0x20, 0x7e)]
  | .punct => [(0x21, 0x2f), (0x3a, 0x40), (0x5b, 0x60), (0x7b, 0x7e)]
  | .space => [(9, 0x0d), (0x20, 0x20)]
  | .upper => [(0x41, 0x5a)]
  | .word => [(0x30, 0x39), (0x41, 0x5a), (0x5f, 0x5f), (0x61, 0x7a)]
  | .xdigit => [(0x30, 0x39), (0x41, 0x46), (0x61, 0x66)]

def EscapeClass.named : EscapeClass → NamedClass
  | .digit => .digit
  | .space => .space
  | .word => .word

def EscapeClass.ranges : EscapeClass → ScalarRanges
  | .digit => Text.Category.decimalNumber
  | .space => Text.Property.whiteSpace
  | .word => Text.Property.word

def bytesOf (ranges : ScalarRanges) : ByteSet :=
  ranges.foldl (fun set range => set.union (.range (UInt8.ofNat range.1) (UInt8.ofNat range.2)))
    .empty

def finishBytes (mode : Mode) (negated : Bool) (set : ByteSet) : ByteSet :=
  let folded := if mode.caseless then set.foldCase else set
  if negated then folded.complement else folded

def finishScalars (mode : Mode) (negated : Bool) (ranges : ScalarRanges) :
    ScalarRanges :=
  let folded := if mode.caseless then ranges.foldCase else ranges
  if negated then folded.complement else folded

def propertyScalars (mode : Mode) (name : String) (negated : Bool) :
    Except Fault ScalarRanges :=
  match Text.PropertyName.read? name with
  | none => .error .property
  | some (unequal, ranges) => .ok (finishScalars mode (negated != unequal) ranges)

def Literal.byte (literal : Literal) : Except Fault UInt8 :=
  let code := literal.char.toNat
  if code < 0x80 ∨ (literal.isByte ∧ code < 0x100) then .ok (UInt8.ofNat code) else .error .unicode

mutual

def ClassSyntax.bytes (mode : Mode) : ClassSyntax → Except Fault ByteSet
  | .empty => .ok .empty
  | .literal found => do
    let byte ← found.byte
    .ok (.singleton byte)
  | .range first last => do
    let low ← first.byte
    let high ← last.byte
    .ok (.range low high)
  | .named kind negated => .ok (finishBytes mode negated (bytesOf kind.ranges))
  | .escape kind negated =>
    let set := bytesOf kind.named.ranges
    .ok (if negated then set.complement else set)
  | .property _ _ => .error .unicode
  | .bracketed negated content => do
    let set ← content.bytes mode
    .ok (finishBytes mode negated set)
  | .union parts => ClassSyntax.unionBytes mode parts
  | .combined operator left right => do
    let left ← left.bytes mode
    let right ← right.bytes mode
    let left := if mode.caseless then left.foldCase else left
    let right := if mode.caseless then right.foldCase else right
    .ok (match operator with
      | .intersection => left.intersection right
      | .difference => left.difference right
      | .symmetricDifference => left.symmetricDifference right)

def ClassSyntax.unionBytes (mode : Mode) : List ClassSyntax → Except Fault ByteSet
  | [] => .ok .empty
  | part :: parts => do
    let set ← part.bytes mode
    let rest ← ClassSyntax.unionBytes mode parts
    .ok (set.union rest)

end

mutual

def ClassSyntax.scalars (mode : Mode) : ClassSyntax → Except Fault ScalarRanges
  | .empty => .ok []
  | .literal found => .ok [(found.char.toNat, found.char.toNat)]
  | .range first last => .ok [(first.char.toNat, last.char.toNat)]
  | .named kind negated => .ok (finishScalars mode negated kind.ranges)
  | .escape kind negated => .ok (if negated then kind.ranges.complement else kind.ranges)
  | .property name negated => propertyScalars mode name negated
  | .bracketed negated content => do
    let ranges ← content.scalars mode
    .ok (finishScalars mode negated ranges)
  | .union parts => ClassSyntax.unionScalars mode parts
  | .combined operator left right => do
    let left ← left.scalars mode
    let right ← right.scalars mode
    let left := if mode.caseless then left.foldCase else left
    let right := if mode.caseless then right.foldCase else right
    .ok (match operator with
      | .intersection => left.intersection right
      | .difference => left.difference right
      | .symmetricDifference => left.symmetricDifference right)

def ClassSyntax.unionScalars (mode : Mode) : List ClassSyntax → Except Fault ScalarRanges
  | [] => .ok []
  | part :: parts => do
    let ranges ← part.scalars mode
    let rest ← ClassSyntax.unionScalars mode parts
    .ok (ranges ++ rest)

end

/-- What a character matches. A character written as a byte is that byte unless the Unicode flag is
set, and every other one is its UTF-8 form. -/
def Literal.meaning (mode : Mode) (literal : Literal) : Expression :=
  let code := literal.char.toNat
  if mode.unicode then
    let forms := if mode.caseless then Text.Case.formsOf code else []
    if forms.isEmpty then .ofBytes (utf8 code)
    else .scalars (ScalarRanges.normalize (forms.map fun form => (form, form)))
  else if literal.isByte && 0x80 ≤ code then .set (.singleton (UInt8.ofNat code))
  else if code < 0x80 then
    let set := ByteSet.singleton (UInt8.ofNat code)
    .set (if mode.caseless then set.foldCase else set)
  else .ofBytes (utf8 code)

def dotMeaning (mode : Mode) : Expression :=
  let ends : ScalarRanges :=
    if mode.dotAll then [] else if mode.crlf then [(0x0a, 0x0a), (0x0d, 0x0d)] else [(0x0a, 0x0a)]
  if mode.unicode then .scalars ends.complement
  else .set (bytesOf ends).complement

def Anchor.meaning (mode : Mode) : Anchor → Expression
  | .startLine => .look (if mode.multiLine then .startLine mode.crlf else .start)
  | .endLine => .look (if mode.multiLine then .endLine mode.crlf else .finish)
  | .startText => .look .start
  | .endText => .look .finish
  | .wordBoundary => .look (.word .boundary mode.unicode)
  | .notWordBoundary => .look (.word .notBoundary mode.unicode)
  | .wordStart => .look (.word .start mode.unicode)
  | .wordEnd => .look (.word .finish mode.unicode)
  | .wordStartHalf => .look (.word .startHalf mode.unicode)
  | .wordEndHalf => .look (.word .endHalf mode.unicode)

def EscapeClass.meaning (mode : Mode) (negated : Bool) (kind : EscapeClass) : Expression :=
  if mode.unicode then
    .scalars (if negated then kind.ranges.complement else kind.ranges)
  else
    let set := bytesOf kind.named.ranges
    .set (if negated then set.complement else set)

mutual

/-- What a part of an expression matches, and the flags that are in force after it. -/
def Syntax.meaning (mode : Mode) : Syntax → Except Fault (Expression × Mode)
  | .empty => .ok (.empty, mode)
  | .flags changes => .ok (.empty, mode.apply changes)
  | .literal found => .ok (found.meaning mode, mode)
  | .dot => .ok (dotMeaning mode, mode)
  | .anchor position => .ok (position.meaning mode, mode)
  | .escape kind negated => .ok (kind.meaning mode negated, mode)
  | .property name negated =>
    if mode.unicode then do
      let ranges ← propertyScalars mode name negated
      .ok (.scalars ranges.normalize, mode)
    else .error .unicode
  | .bracketed negated content =>
    if mode.unicode then do
      let ranges ← content.scalars mode
      .ok (.scalars (finishScalars mode negated ranges).normalize, mode)
    else do
      let set ← content.bytes mode
      .ok (.set (finishBytes mode negated set), mode)
  | .repetition least most greedy inner => do
    let (expression, mode) ← inner.meaning mode
    .ok (.rounds least most (greedy != mode.swapGreed) expression, mode)
  | .group capturing changes inner => do
    let (expression, _) ← inner.meaning (mode.apply changes)
    .ok (if capturing then .group expression else expression, mode)
  | .alternation branches => do
    let (choices, mode) ← Syntax.meanings mode branches
    .ok (.ofChoices choices, mode)
  | .concatenation parts => do
    let (expressions, mode) ← Syntax.meanings mode parts
    .ok (.ofSequence expressions, mode)

/-- What some parts match, each with the flags that the ones before it leave in force. -/
def Syntax.meanings (mode : Mode) : List Syntax → Except Fault (List Expression × Mode)
  | [] => .ok ([], mode)
  | part :: parts => do
    let (expression, mode) ← part.meaning mode
    let (expressions, mode) ← Syntax.meanings mode parts
    .ok (expression :: expressions, mode)

end

mutual

def ClassSyntax.depth : ClassSyntax → Nat
  | .bracketed _ content => content.depth + 1
  | .union parts => ClassSyntax.depths parts + 1
  | .combined _ left right => max left.depth right.depth + 1
  | _ => 0

def ClassSyntax.depths : List ClassSyntax → Nat
  | [] => 0
  | part :: parts => max part.depth (ClassSyntax.depths parts)

end

mutual

def Syntax.depth : Syntax → Nat
  | .bracketed _ content => content.depth + 1
  | .repetition _ _ _ inner => inner.depth + 1
  | .group _ _ inner => inner.depth + 1
  | .alternation branches => Syntax.depths branches + 1
  | .concatenation parts => Syntax.depths parts + 1
  | _ => 0

def Syntax.depths : List Syntax → Nat
  | [] => 0
  | part :: parts => max part.depth (Syntax.depths parts)

end

def depthLimit : Nat := 250

end ByteScan.Regex
