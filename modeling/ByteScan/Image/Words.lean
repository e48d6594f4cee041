/-!
# Numbers in images

The headers of an executable image are numbers at fixed places, stored with their least or their
most significant byte first. A number that does not lie within the data is absent.
-/

namespace ByteScan.Image

structure Words where
  data : ByteArray
  bigEndian : Bool

namespace Words

/-- The number of `count` bytes from `offset` on, whose bytes come most significant first;
`total` is what the bytes before make. -/
def readBig (data : ByteArray) (offset : Nat) : Nat → Nat → Nat
  | 0, total => total
  | count + 1, total => readBig data (offset + 1) count (total * 256 + (data[offset]?.getD 0).toNat)

def readLittle (data : ByteArray) (offset : Nat) : Nat → Nat
  | 0 => 0
  | count + 1 => (data[offset]?.getD 0).toNat + 256 * readLittle data (offset + 1) count

def read? (words : Words) (width offset : Nat) : Option Nat :=
  if offset + width ≤ words.data.size then
    some (if words.bigEndian then readBig words.data offset width 0
      else readLittle words.data offset width)
  else none

def half? (words : Words) (offset : Nat) : Option Nat := words.read? 2 offset

def word? (words : Words) (offset : Nat) : Option Nat := words.read? 4 offset

def long? (words : Words) (offset : Nat) : Option Nat := words.read? 8 offset

def holds (words : Words) (offset size : Nat) : Bool := offset + size ≤ words.data.size

/-- A text begins at an offset, which may be the end of the data: the bytes up to the first zero are
UTF-8. -/
def textFits (words : Words) (offset : Nat) : Bool :=
  offset ≤ words.data.size &&
    let stop := (words.data.findIdx? (· == 0) offset).getD words.data.size
    (String.fromUTF8? (words.data.extract offset stop)).isSome

end Words

end ByteScan.Image
