import ByteScan.Text.ScalarRanges

/-!
# UTF-8 forms of scalar values

A set of scalar values is matched byte by byte. `byteRuns` splits its ranges into pieces whose UTF-8
forms are products of byte ranges, in increasing order of the values.
-/

namespace ByteScan.Regex

abbrev ByteRun := List (UInt8 × UInt8)

def utf8 (code : Nat) : List UInt8 := (String.singleton (Char.ofNat code)).toUTF8.toList

/-- Splits a range of scalar values into products of byte ranges. A range is cut around the
surrogates and where the length of the UTF-8 form changes, and then where a block of values that
share their leading bytes begins or ends. -/
def splitRange : Nat → Nat → Nat → List ByteRun
  | 0, _, _ => []
  | fuel + 1, low, high =>
    if high < low then []
    else
      let cut (last : Nat) := splitRange fuel low last ++ splitRange fuel (last + 1) high
      if low < 0xe000 ∧ 0xd7ff < high then
        splitRange fuel low (min high 0xd7ff) ++ splitRange fuel (max low 0xe000) high
      else if 0xd7ff < low ∧ high < 0xe000 then []
      else if low ≤ 0x7f ∧ 0x7f < high then cut 0x7f
      else if low ≤ 0x7ff ∧ 0x7ff < high then cut 0x7ff
      else if low ≤ 0xffff ∧ 0xffff < high then cut 0xffff
      else if high ≤ 0x7f then [[(UInt8.ofNat low, UInt8.ofNat high)]]
      else
        match [0x40, 0x1000, 0x40000].find? fun block =>
            low / block ≠ high / block && (low % block ≠ 0 || high % block ≠ block - 1) with
        | some block =>
          if low % block ≠ 0 then cut (low / block * block + block - 1)
          else cut (high / block * block - 1)
        | none => [(utf8 low).zip (utf8 high)]

def byteRuns (ranges : Text.ScalarRanges) : List ByteRun :=
  ranges.flatMap fun range => splitRange 64 range.1 range.2

end ByteScan.Regex
