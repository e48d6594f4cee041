import ByteScan.Byte

/-!
# Sets of bytes

A set of bytes is four words of sixty-four bits, one bit for each byte, so that membership is one
shift and the operations on classes are operations on words.
-/

namespace ByteScan.Regex

/-- A set of bytes; each word holds a quarter of the bytes in increasing order. -/
structure ByteSet where
  /-- The bytes below 64. -/
  first : UInt64
  /-- The bytes from 64 to 127. -/
  second : UInt64
  /-- The bytes from 128 to 191. -/
  third : UInt64
  /-- The bytes from 192. -/
  fourth : UInt64
  deriving DecidableEq, Repr, Inhabited

namespace ByteSet

def word (set : ByteSet) (byte : UInt8) : UInt64 :=
  if byte < 64 then set.first
  else if byte < 128 then set.second
  else if byte < 192 then set.third
  else set.fourth

def contains (set : ByteSet) (byte : UInt8) : Bool :=
  (set.word byte >>> (byte &&& 63).toUInt64) &&& 1 == 1

def zipWith (operation : UInt64 → UInt64 → UInt64) (left right : ByteSet) : ByteSet :=
  ⟨operation left.first right.first, operation left.second right.second,
    operation left.third right.third, operation left.fourth right.fourth⟩

def empty : ByteSet := ⟨0, 0, 0, 0⟩

def union : ByteSet → ByteSet → ByteSet := zipWith (· ||| ·)

def intersection : ByteSet → ByteSet → ByteSet := zipWith (· &&& ·)

def difference : ByteSet → ByteSet → ByteSet := zipWith fun left right => left &&& ~~~right

def symmetricDifference : ByteSet → ByteSet → ByteSet := zipWith (· ^^^ ·)

def complement (set : ByteSet) : ByteSet :=
  ⟨~~~set.first, ~~~set.second, ~~~set.third, ~~~set.fourth⟩

def singleton (byte : UInt8) : ByteSet :=
  let bit : UInt64 := 1 <<< (byte &&& 63).toUInt64
  if byte < 64 then ⟨bit, 0, 0, 0⟩
  else if byte < 128 then ⟨0, bit, 0, 0⟩
  else if byte < 192 then ⟨0, 0, bit, 0⟩
  else ⟨0, 0, 0, bit⟩

def lowBits (count : Nat) : UInt64 :=
  if 64 ≤ count then ~~~0 else (1 <<< count.toUInt64) - 1

def range (low high : UInt8) : ByteSet :=
  let word (least : Nat) : UInt64 :=
    lowBits (high.toNat + 1 - least) &&& ~~~(lowBits (low.toNat - least))
  ⟨word 0, word 64, word 128, word 192⟩

def full : ByteSet := empty.complement

def foldCase (set : ByteSet) : ByteSet :=
  let letters := set.second
  -- Small letters stand thirty-two bits above their capitals.
  let capitals : UInt64 := 0x7fffffe
  let raised := (letters &&& capitals) <<< 32
  let lowered := (letters >>> 32) &&& capitals
  { set with second := letters ||| raised ||| lowered }

def runs (set : ByteSet) : Nat :=
  (List.range 256).countP fun code =>
    set.contains (UInt8.ofNat code) && (code == 0 || !set.contains (UInt8.ofNat (code - 1)))

end ByteSet

end ByteScan.Regex
