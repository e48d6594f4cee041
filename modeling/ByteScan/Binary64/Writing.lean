import ByteScan.Binary64.Basic

/-!
# Doubles as decimal text

`shortest` finds the fewest decimal digits that read back as a given double, and among those the
nearest to it. What is made of the digits is a matter of the format: `positional` writes them
around a point, `roundedTo` gives a fixed number of places.
-/

namespace ByteScan.Binary64

/-- A positive decimal number: its digits as a number, and the power of ten of the last one. -/
structure Decimal where
  coefficient : Nat
  exponent : Int
  deriving DecidableEq, Repr

def decimalExponent (numerator denominator : Nat) : Int :=
  if denominator ≤ numerator then
    ((Text.digits 10 (numerator / denominator)).length : Int) - 1
  else
    - ((Text.digits 10 ((denominator - 1) / numerator)).length : Int)

def scaleDecimal (numerator denominator : Nat) (exponent : Int) : Nat × Nat :=
  (numerator * Nat.pow 10 exponent.toNat, denominator * Nat.pow 10 (-exponent).toNat)

/-- The decimal with `count` digits, counted from the first one, that lies nearest to a magnitude
and reads back as it. -/
def withDigits? (bits : Nat) (count : Nat) : Option Decimal :=
  let (mantissa, exponent) := decode bits
  -- Quarters of the last place, so that both half-way points are integers.
  let middle := 4 * mantissa
  let lower := if mantissa = fractions && exponent ≠ -1074 then middle - 1 else middle - 2
  let upper := middle + 2
  let (numerator, denominator) := scale middle 1 (exponent - 2)
  let power := decimalExponent numerator denominator + 1 - count
  let scaled (quarters : Nat) : Nat × Nat :=
    let (n, d) := scale quarters 1 (exponent - 2)
    scaleDecimal n d (-power)
  let (value, unit) := scaled middle
  let (lowest, _) := scaled lower
  let (highest, _) := scaled upper
  let inside (point : Nat) : Bool :=
    if mantissa % 2 = 0 then lowest ≤ point * unit && point * unit ≤ highest
    else lowest < point * unit && point * unit < highest
  let below := value / unit
  let above := below + 1
  match inside below, inside above with
  | true, true =>
    if 2 * value ≤ (2 * below + 1) * unit then some ⟨below, power⟩ else some ⟨above, power⟩
  | true, false => some ⟨below, power⟩
  | false, true => some ⟨above, power⟩
  | false, false => none

def Decimal.trim (decimal : Decimal) : Decimal :=
  if h : decimal.coefficient ≠ 0 ∧ decimal.coefficient % 10 = 0 then
    Decimal.trim ⟨decimal.coefficient / 10, decimal.exponent + 1⟩
  else decimal
termination_by decimal.coefficient
decreasing_by exact Nat.div_lt_self (by omega) (by omega)

def firstSufficient (bits : Nat) : List Nat → Decimal
  | [] => ⟨0, 0⟩
  | count :: counts =>
    match withDigits? bits count with
    | some decimal => decimal.trim
    | none => firstSufficient bits counts

/-- The shortest decimal that reads back as a positive finite magnitude. Seventeen digits always
suffice. -/
def shortest (bits : Nat) : Decimal :=
  firstSufficient bits [1, 2, 3, 4, 5, 6, 7, 8, 9, 10, 11, 12, 13, 14, 15, 16, 17]

def Decimal.positional (decimal : Decimal) : List Char :=
  let written := Text.digits 10 decimal.coefficient
  match decimal.exponent with
  | .ofNat zeros => written ++ List.replicate zeros '0'
  | .negSucc places =>
    let places := places + 1
    if places < written.length then
      written.take (written.length - places) ++ '.' :: written.drop (written.length - places)
    else '0' :: '.' :: List.replicate (places - written.length) '0' ++ written

/-- A double in decimal without an exponent, with the fewest digits that read back. -/
def text (x : Binary64) : String :=
  if x.isNaN then "NaN"
  else
    let sign := if x.isNegative then ['-'] else []
    let body :=
      if x.isInfinite then "inf".toList
      else if x.isZero then ['0']
      else (shortest x.magnitude).positional
    String.ofList (sign ++ body)

/-- A quotient rounded to a number of decimal places, at least one; a half goes to the even
neighbour. -/
def fixedText (numerator denominator places : Nat) : String :=
  let rounded := roundQuotient (numerator * Nat.pow 10 places) denominator
  let written := Text.digits 10 rounded
  let padded := List.replicate (places + 1 - written.length) '0' ++ written
  String.ofList
    (padded.take (padded.length - places) ++ '.' :: padded.drop (padded.length - places))

def roundedTo (places bits : Nat) : String :=
  let (numerator, denominator) := ratio bits
  fixedText numerator denominator places

end ByteScan.Binary64
