import ByteScan.Json.Basic

/-!
# Numbers in JSON

The digits before the exponent are gathered into one machine word for as long as they fit; digits
after that are dropped, and those before the point are counted. The word is then rounded to a
double and scaled by a single rounded power of ten, so the last bit may differ from that of the
nearest double. An integer that fits its word is kept exactly.
-/

namespace ByteScan.Json

/-- The digits of a number as gathered: a word and the power of ten that its last digit counts. -/
structure Gathered where
  significand : Nat
  exponent : Int
  deriving Repr

def appendDigit? (significand : Nat) (digit : Char) : Option Nat :=
  let next := significand * 10 + (digit.toNat - 0x30)
  if next < UInt64.size then some next else none

/-- Gathers the digits before the point; the second part says whether all of them fit. -/
def gatherWhole (significand : Nat) : List Char → Gathered × Bool
  | [] => (⟨significand, 0⟩, true)
  | digit :: rest =>
    match appendDigit? significand digit with
    | some next => gatherWhole next rest
    | none => (⟨significand, (digit :: rest).length⟩, false)

/-- Gathers the digits after the point, up to the first one that does not fit. -/
def gatherFraction (gathered : Gathered) : List Char → Gathered
  | [] => gathered
  | digit :: rest =>
    match appendDigit? gathered.significand digit with
    | some next => gatherFraction ⟨next, gathered.exponent - 1⟩ rest
    | none => gathered

/-- Scales a magnitude by a power of ten. A power beyond the table is applied in steps of the
largest one; below zero, three steps leave nothing of any word. -/
def scaleByTen : Nat → Nat → Int → Option Nat
  | 0, bits, _ => some bits
  | steps + 1, bits, exponent =>
    if exponent.natAbs ≤ 308 then
      let power := Binary64.roundRatio (Nat.pow 10 exponent.natAbs) 1
      if 0 ≤ exponent then
        let product := Binary64.mulMagnitudes bits power
        if product = Binary64.infinityBits then none else some product
      else some (Binary64.divMagnitudes bits power)
    else if bits = 0 then some 0
    else if 0 ≤ exponent then none
    else
      scaleByTen steps
        (Binary64.divMagnitudes bits (Binary64.roundRatio (Nat.pow 10 308) 1)) (exponent + 308)

def ofGathered (negative : Bool) (gathered : Gathered) : Json :=
  match scaleByTen 4 (Binary64.roundRatio gathered.significand 1) gathered.exponent with
  | some bits => .float (Binary64.ofMagnitude negative bits)
  | none => .outOfRange

def largestExponent : Nat := 0x7fffffff

/-- Applies a written exponent. One that does not fit thirty-two bits stands for itself only
where the outcome is clear: it makes zero, or nothing but zero fits. -/
def applyExponent (negative : Bool) (gathered : Gathered) (downward : Bool) (written : Nat) :
    Json :=
  if largestExponent < written then
    if gathered.significand ≠ 0 ∧ ¬ downward then .outOfRange
    else .float (Binary64.ofMagnitude negative 0)
  else
    let shift : Int := if downward then - (written : Int) else written
    let total := max (-0x80000000) (min 0x7fffffff (gathered.exponent + shift))
    ofGathered negative ⟨gathered.significand, total⟩

def ofInteger (negative : Bool) (size : Nat) : Json :=
  if ¬ negative then .natural size
  else if size = 0 ∨ 0x8000000000000000 < size then .float (Binary64.ofRatio true size 1)
  else .negative (- (size : Int))

def ofNumber (negative : Bool) (whole : List Char) (fraction : Option (List Char))
    (exponent : Option (Bool × List Char)) : Json :=
  let (gathered, fits) := gatherWhole 0 whole
  let withFraction := match fraction with
    | some digits => gatherFraction gathered digits
    | none => gathered
  match fraction, exponent with
  | none, none => if fits then ofInteger negative gathered.significand
    else ofGathered negative gathered
  | _, none => ofGathered negative withFraction
  | _, some (downward, digits) =>
    applyExponent negative withFraction downward
      (digits.foldl (fun total c => total * 10 + (c.toNat - 0x30)) 0)

end ByteScan.Json
