/-!
# Matches and blocks

Scanned data comes in blocks, each with the address of its first byte. A match records where in
which block a string occurs, and the first bytes that it takes there.
-/

namespace ByteScan

structure Block where
  base : UInt64
  data : ByteArray

structure Match where
  base : UInt64
  offset : Nat
  length : Nat
  excerpt : ByteArray

namespace Match

def excerptLimit : Nat := 512

/-- The address of the match, as far as addresses go. -/
def address? (found : Match) : Option UInt64 :=
  let address := found.base.toNat + found.offset
  if address < UInt64.size then some (UInt64.ofNat address) else none

def ofBlock (block : Block) (offset length : Nat) : Match :=
  ⟨block.base, offset, length, block.data.extract offset (offset + min length excerptLimit)⟩

end Match

end ByteScan
