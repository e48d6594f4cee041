import ByteScan.Regex.Expression
import ByteScan.Text.Utf8

/-!
# Layout of an expression

The size of an expression is reckoned on a simpler form of it, its layout: bytes that follow one
another are one literal, sequences and choices stand directly in no other one of their kind, a
choice of single characters or of classes is one class, and what all branches of a choice begin with
stands before the choice. `Expression.layout` gives the layout, part by part.
-/

namespace ByteScan.Regex

/-- What an expression consists of once it is simplified. -/
inductive Layout where
  | empty
  | literal (bytes : List UInt8)
  /-- One byte of a set that does not have exactly one. -/
  | byteClass (set : ByteSet)
  /-- One character of some ordered ranges that do not hold exactly one. -/
  | charClass (ranges : Text.ScalarRanges)
  | look (look : Look)
  | repetition (least : Nat) (most : Option Nat) (greedy : Bool) (inner : Layout)
  | group (inner : Layout)
  /-- At least two parts, of which no two literals stand side by side. -/
  | sequence (parts : List Layout)
  | choice (branches : List Layout)
  deriving Repr, Inhabited

namespace Layout

/-! ## What a layout shows -/

mutual

def isWidthless : Layout → Bool
  | .empty | .look _ => true
  | .literal _ | .byteClass _ | .charClass _ => false
  | .repetition _ most _ inner => most.isSome && inner.isWidthless
  | .group inner => inner.isWidthless
  | .sequence parts => allWidthless parts
  | .choice branches => allWidthless branches

def allWidthless : List Layout → Bool
  | [] => true
  | part :: parts => part.isWidthless && allWidthless parts

end

mutual

/-- Whether every match takes at least one byte; absent where a part matches nothing. -/
def consumes? : Layout → Option Bool
  | .empty | .look _ => some false
  | .literal _ => some true
  | .byteClass set => if set = .empty then none else some true
  | .charClass ranges => if ranges.isEmpty then none else some true
  | .repetition least _ _ inner => inner.consumes?.map (least ≠ 0 && ·)
  | .group inner => inner.consumes?
  | .sequence parts => anyConsumes? parts
  | .choice branches => allConsume? branches

def anyConsumes? : List Layout → Option Bool
  | [] => some false
  | part :: parts =>
    match part.consumes?, anyConsumes? parts with
    | some first, some others => some (first || others)
    | _, _ => none

def allConsume? : List Layout → Option Bool
  | [] => some true
  | branch :: branches =>
    match branch.consumes?, allConsume? branches with
    | some first, some others => some (first && others)
    | _, _ => none

end

mutual

/-- Every match begins where a condition holds, which stands before all that takes a byte. -/
def beginsAt (condition : Look) : Layout → Bool
  | .empty | .literal _ | .byteClass _ | .charClass _ => false
  | .look found => found = condition
  | .repetition least _ _ inner => least ≠ 0 && inner.beginsAt condition
  | .group inner => inner.beginsAt condition
  | .sequence parts => sequenceBeginsAt condition parts
  | .choice branches => allBeginAt condition branches

def sequenceBeginsAt (condition : Look) : List Layout → Bool
  | [] => false
  | part :: parts =>
    part.beginsAt condition || (part.isWidthless && sequenceBeginsAt condition parts)

def allBeginAt (condition : Look) : List Layout → Bool
  | [] => true
  | branch :: branches => branch.beginsAt condition && allBeginAt condition branches

end

mutual

def reverse : Layout → Layout
  | .empty => .empty
  | .literal text => .literal text.reverse
  | .byteClass found => .byteClass found
  | .charClass found => .charClass found
  | .look found => .look found
  | .repetition least most greedy inner => .repetition least most greedy inner.reverse
  | .group inner => .group inner.reverse
  | .sequence parts => .sequence (reverseEach parts).reverse
  | .choice branches => .choice (reverseEach branches)

def reverseEach : List Layout → List Layout
  | [] => []
  | part :: parts => part.reverse :: reverseEach parts

end

mutual

/-- Two layouts are alike. Groups have different numbers, so no two of them are. -/
def same : Layout → Layout → Bool
  | .empty, .empty => true
  | .literal left, .literal right => left == right
  | .byteClass left, .byteClass right => left == right
  | .charClass left, .charClass right => left == right
  | .look left, .look right => left == right
  | .repetition least most greedy inner, .repetition least' most' greedy' inner' =>
    least == least' && most == most' && greedy == greedy' && inner.same inner'
  | .sequence left, .sequence right => sameEach left right
  | .choice left, .choice right => sameEach left right
  | _, _ => false

def sameEach : List Layout → List Layout → Bool
  | [], [] => true
  | left :: lefts, right :: rights => left.same right && sameEach lefts rights
  | _, _ => false

end

/-! ## Building layouts -/

def ofBytes (bytes : List UInt8) : Layout := if bytes.isEmpty then .empty else .literal bytes

def ofSet (set : ByteSet) : Layout :=
  match (List.range 256).filter fun code => set.contains (UInt8.ofNat code) with
  | [code] => .literal [UInt8.ofNat code]
  | _ => .byteClass set

def ofScalars (ranges : Text.ScalarRanges) : Layout :=
  match ranges with
  | [] => .byteClass .empty
  | [(low, high)] => if low = high then .literal (utf8 low) else .charClass ranges
  | _ => .charClass ranges

def parts : Layout → List Layout
  | .empty => []
  | .sequence parts => parts
  | layout => [layout]

/-- Puts a part in front of others; literals side by side become one. -/
def consPart : Layout → List Layout → List Layout
  | .literal left, .literal right :: parts => .literal (left ++ right) :: parts
  | part, parts => part :: parts

def ofSequence (layouts : List Layout) : Layout :=
  match (layouts.flatMap parts).foldr consPart [] with
  | [] => .empty
  | [part] => part
  | parts => .sequence parts

def branches : Layout → List Layout
  | .choice branches => branches
  | layout => [layout]

def character? : Layout → Option Nat
  | .literal (byte :: rest) =>
    match Utf8.first byte rest with
    | (some c, []) => some c.toNat
    | _ => none
  | _ => none

def byte? : Layout → Option UInt8
  | .literal [byte] => some byte
  | _ => none

def asciiRanges? (set : ByteSet) : Option Text.ScalarRanges :=
  if set.third = 0 ∧ set.fourth = 0 then
    some (Text.ScalarRanges.normalize (((List.range 128).filter fun code =>
      set.contains (UInt8.ofNat code)).map fun code => (code, code)))
  else none

/-- The characters of a class; a class of bytes stands for characters only within ASCII. -/
def classScalars? : Layout → Option Text.ScalarRanges
  | .charClass ranges => some ranges
  | .byteClass set => asciiRanges? set
  | _ => none

def isAscii (ranges : Text.ScalarRanges) : Bool := ranges.all fun range => range.2 < 0x80

def bytesOfAscii (ranges : Text.ScalarRanges) : ByteSet :=
  ranges.foldl (fun set range => set.union (.range (UInt8.ofNat range.1) (UInt8.ofNat range.2)))
    .empty

/-- The bytes of a class; a class of characters stands for bytes only within ASCII. -/
def classBytes? : Layout → Option ByteSet
  | .charClass ranges => if isAscii ranges then some (bytesOfAscii ranges) else none
  | .byteClass set => some set
  | _ => none

def joined? (branches : List Layout) : Option Layout :=
  let characters := (branches.mapM character?).map fun codes =>
    ofScalars (Text.ScalarRanges.normalize (codes.map fun code => (code, code)))
  let bytes := (branches.mapM byte?).map fun bytes =>
    ofSet (bytes.foldl (fun set byte => set.union (.singleton byte)) .empty)
  let scalarClasses := (branches.mapM classScalars?).map fun classes =>
    ofScalars (Text.ScalarRanges.unions classes)
  let byteClasses := (branches.mapM classBytes?).map fun classes =>
    ofSet (classes.foldl ByteSet.union .empty)
  characters.or (bytes.or (scalarClasses.or byteClasses))

def commonLength : List Layout → List Layout → Nat
  | left :: lefts, right :: rights =>
    if left.same right then commonLength lefts rights + 1 else 0
  | _, _ => 0

def sequence? : Layout → Option (List Layout)
  | .sequence parts => some parts
  | _ => none

/-- What all of some sequences begin with, and what follows it in each of them. -/
def liftFront? (branches : List Layout) : Option (List Layout × List Layout) :=
  match branches.mapM sequence? with
  | some (first :: others) =>
    let length := others.foldl (fun length parts => min length (commonLength first parts))
      first.length
    if length = 0 then none
    else some (first.take length, (first :: others).map fun parts => ofSequence (parts.drop length))
  | _ => none

def ofBranches (branches : List Layout) : Layout := (joined? branches).getD (.choice branches)

/-- A choice of some layouts. Once what its branches begin with is lifted out of it, what is left of
them has no such front again. -/
def ofChoice (layouts : List Layout) : Layout :=
  match layouts.flatMap branches with
  | [] => .byteClass .empty
  | [branch] => branch
  | found =>
    match joined? found, liftFront? found with
    | none, some (front, rests) =>
      ofSequence (front ++ [ofBranches (rests.flatMap branches)])
    | joined, _ => joined.getD (.choice found)

end Layout

namespace Expression

mutual

def layout : Expression → Layout
  | .empty => .empty
  | .set found => .ofSet found
  | .scalars found => .ofScalars found
  | .look found => .look found
  | .sequence parts => .ofSequence (layouts parts)
  | .choice branches => .ofChoice (layouts branches)
  | .repetition least most greedy inner => .repetition least most greedy inner.layout
  | .group inner => .group inner.layout

def layouts : List Expression → List Layout
  | [] => []
  | part :: parts => part.layout :: layouts parts

end

end Expression

end ByteScan.Regex
