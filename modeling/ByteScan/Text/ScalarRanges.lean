import ByteScan.Byte
import ByteScan.Text.Blank

/-!
# Ranges of Unicode scalar values

Sets of characters are ranges of scalar values, both ends included. The values from D800 to DFFF are
no scalar values: no set holds them, even where a range spans them. In tables a set is written in
hexadecimal, with a dash between the ends of a range and blanks around it.
-/

namespace ByteScan.Text

/-- Ranges of scalar values, both ends of each included. -/
abbrev ScalarRanges := List (Nat × Nat)

def readHex (digits : List Char) : Nat :=
  digits.foldl (fun total digit => total * 16 + (Byte.ofHexDigit? digit).getD 0) 0

namespace ScalarRanges

def readRange (field : List Char) : Nat × Nat :=
  match field.span (· ≠ '-') with
  | (first, _ :: last) => (readHex first, readHex last)
  | (only, []) => (readHex only, readHex only)

def ofText (text : String) : ScalarRanges := (fields text.toList).map readRange

def contains (ranges : ScalarRanges) (code : Nat) : Bool :=
  ranges.any fun range => range.1 ≤ code && code ≤ range.2

def last : Nat := 0x10ffff

def after (code : Nat) : Nat := if code = 0xd7ff then 0xe000 else code + 1

def before (code : Nat) : Nat := if code = 0xe000 then 0xd7ff else code - 1

/-- Joins ordered ranges that overlap or touch. -/
def join : Nat × Nat → ScalarRanges → ScalarRanges
  | current, [] => [current]
  | current, next :: rest =>
    if next.1 ≤ current.2 + 1 then join (current.1, max current.2 next.2) rest
    else current :: join next rest

/-- The same values as ordered ranges with gaps between them. -/
def normalize (ranges : ScalarRanges) : ScalarRanges :=
  match ranges.mergeSort fun first second => decide (first.1 ≤ second.1) with
  | [] => []
  | first :: rest => join first rest

def union (left right : ScalarRanges) : ScalarRanges := normalize (left ++ right)

def unions (sets : List ScalarRanges) : ScalarRanges := normalize sets.flatten

def gaps (low : Nat) : ScalarRanges → ScalarRanges
  | [] => if low ≤ last then [(low, last)] else []
  | range :: rest =>
    if low < range.1 then (low, before range.1) :: gaps (after range.2) rest
    else gaps (after range.2) rest

def complement (ranges : ScalarRanges) : ScalarRanges := gaps 0 (normalize ranges)

def intersection (left right : ScalarRanges) : ScalarRanges :=
  complement (complement left ++ complement right)

def difference (left right : ScalarRanges) : ScalarRanges := intersection left (complement right)

def symmetricDifference (left right : ScalarRanges) : ScalarRanges :=
  union (difference left right) (difference right left)

end ScalarRanges

end ByteScan.Text
