import ByteScan.Text.Integer

/-!
# Double-precision numbers

A double is its sixty-four bits, so that a value read from a file is kept bit for bit, and every
operation is exact arithmetic on natural numbers followed by one rounding. `roundRatio` is that
rounding: to nearest, and to the even neighbour when two are equally near.
-/

namespace ByteScan

/-- A double-precision number, given by its bits. -/
structure Binary64 where
  /-- Sign, eleven bits of exponent and fifty-two bits of fraction. -/
  bits : UInt64
  deriving DecidableEq, Repr, Inhabited

namespace Binary64

/-- The bits of positive infinity, which are also the largest bits that are not a NaN. -/
def infinityBits : Nat := 0x7ff0000000000000

def signBit : Nat := 0x8000000000000000

def magnitude (x : Binary64) : Nat := x.bits.toNat % signBit

def isNegative (x : Binary64) : Bool := signBit ≤ x.bits.toNat

def isNaN (x : Binary64) : Bool := infinityBits < x.magnitude

def isInfinite (x : Binary64) : Bool := x.magnitude == infinityBits

def isZero (x : Binary64) : Bool := x.magnitude == 0

def ofMagnitude (negative : Bool) (bits : Nat) : Binary64 :=
  ⟨UInt64.ofNat (if negative then signBit + bits else bits)⟩

def neg (x : Binary64) : Binary64 := ofMagnitude (!x.isNegative) x.magnitude

def nan : Binary64 := ofMagnitude false 0x7ff8000000000000

def fractions : Nat := 0x10000000000000

/-- Mantissa and exponent of a finite magnitude: its value is `mantissa * 2 ^ exponent`. -/
def decode (bits : Nat) : Nat × Int :=
  let field : Nat := bits / fractions
  let fraction : Nat := bits % fractions
  if field = 0 then (fraction, -1074) else (fractions + fraction, (field : Int) - 1075)

def scale (numerator denominator : Nat) (exponent : Int) : Nat × Nat :=
  (numerator <<< exponent.toNat, denominator <<< (-exponent).toNat)

/-- The integer nearest to a quotient; of two that are equally near, the even one. -/
def roundQuotient (numerator denominator : Nat) : Nat :=
  let quotient := numerator / denominator
  let twice := 2 * (numerator % denominator)
  if denominator < twice || (denominator == twice && quotient % 2 == 1) then quotient + 1
  else quotient

/-- The bits of the magnitude nearest to a quotient of natural numbers. -/
def roundRatio (numerator denominator : Nat) : Nat :=
  if numerator = 0 then 0
  else
    let lowest : Int := max ((numerator.log2 : Int) - denominator.log2 - 53) (-1074)
    let trial := scale numerator denominator (-lowest)
    let exponent := if 2 * fractions ≤ trial.1 / trial.2 then lowest + 1 else lowest
    let scaled := scale numerator denominator (-exponent)
    let bits := (exponent + 1074).toNat * fractions + roundQuotient scaled.1 scaled.2
    min bits infinityBits

def ofRatio (negative : Bool) (numerator denominator : Nat) : Binary64 :=
  ofMagnitude negative (roundRatio numerator denominator)

def ratio (bits : Nat) : Nat × Nat :=
  let (mantissa, exponent) := decode bits
  scale mantissa 1 exponent

def ofInt (number : Int) : Binary64 := ofRatio (number < 0) number.natAbs 1

/-- The place of a number in the order of numbers; both zeros have the same place. -/
def rank (x : Binary64) : Int := if x.isNegative then - (x.magnitude : Int) else x.magnitude

def compare? (x y : Binary64) : Option Ordering :=
  if x.isNaN || y.isNaN then none else some (compare x.rank y.rank)

def addMagnitudes (x y : Nat) : Nat :=
  let (a, b) := ratio x
  let (c, d) := ratio y
  roundRatio (a * d + c * b) (b * d)

def mulMagnitudes (x y : Nat) : Nat :=
  let (a, b) := ratio x
  let (c, d) := ratio y
  roundRatio (a * c) (b * d)

def divMagnitudes (x y : Nat) : Nat :=
  let (a, b) := ratio x
  let (c, d) := ratio y
  roundRatio (a * d) (b * c)

end Binary64

end ByteScan
