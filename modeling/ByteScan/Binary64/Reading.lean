import ByteScan.Binary64.Basic

/-!
# Doubles written in decimal

`ofText?` reads the usual forms of a decimal number and the words for infinity and for a value
that is no number, and gives the nearest double. The sign, the integer digits, the point and the
exponent may each be absent, but at least one digit must stand before the exponent.
-/

namespace ByteScan.Binary64

/-- The bits of the magnitude nearest to `coefficient * 10 ^ exponent`. A number whose first digit
stands beyond the range of doubles is decided without writing it out. -/
def roundDecimal (coefficient : Nat) (exponent : Int) : Nat :=
  if coefficient = 0 then 0
  else
    let first : Int := (Text.digits 10 coefficient).length + exponent
    if 310 < first then infinityBits
    else if first < -330 then 0
    else roundRatio (coefficient * Nat.pow 10 exponent.toNat) (Nat.pow 10 (-exponent).toNat)

def spanDigits (cs : List Char) : List Char × List Char := cs.span Char.isDigit

def ofDigits (cs : List Char) : Nat := cs.foldl (fun total c => total * 10 + (c.toNat - 0x30)) 0

def readExponent? : List Char → Option Int
  | [] => some 0
  | c :: rest =>
    if c ≠ 'e' ∧ c ≠ 'E' then none
    else
      let (negative, written) := match rest with
        | '-' :: more => (true, more)
        | '+' :: more => (false, more)
        | more => (false, more)
      if written.isEmpty || !written.all Char.isDigit then none
      else
        let size : Int := ofDigits written
        some (if negative then -size else size)

def readMagnitude? (cs : List Char) : Option Nat :=
  match (String.ofList cs).toLower with
  | "inf" | "infinity" => some infinityBits
  | "nan" => some nan.magnitude
  | _ =>
    let (whole, rest) := spanDigits cs
    let (fraction, rest) := match rest with
      | '.' :: more => spanDigits more
      | more => ([], more)
    if whole.isEmpty && fraction.isEmpty then none
    else
      match readExponent? rest with
      | none => none
      | some exponent =>
        some (roundDecimal (ofDigits (whole ++ fraction)) (exponent - fraction.length))

def ofText? (text : String) : Option Binary64 :=
  match text.toList with
  | '-' :: rest => (readMagnitude? rest).map (ofMagnitude true)
  | '+' :: rest => (readMagnitude? rest).map (ofMagnitude false)
  | rest => (readMagnitude? rest).map (ofMagnitude false)

end ByteScan.Binary64
