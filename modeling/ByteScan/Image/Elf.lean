import ByteScan.Image.Words

/-!
# ELF images

An ELF image tells where it is to be entered and which segments of it are loaded at which addresses.
`Elf.ofData?` reads both from the header and the program headers.
-/

namespace ByteScan.Image

structure Segment where
  kind : UInt32
  offset : UInt64
  address : UInt64
  fileSize : UInt64
  memorySize : UInt64
  deriving DecidableEq, Repr

namespace Segment

def isLoaded (segment : Segment) : Bool := segment.kind == 1

def isDynamic (segment : Segment) : Bool := segment.kind == 2

end Segment

structure ElfHeader where
  is64 : Bool
  bigEndian : Bool
  kind : Nat
  machine : Nat
  entry : Nat
  segmentsOffset : Nat
  segmentsCount : Nat
  /-- Where the section headers begin; zero if there are none. -/
  sectionsOffset : Nat
  /-- How many section headers there are, or zero if the first of them tells. -/
  sectionsCount : Nat
  namesIndex : Nat
  deriving DecidableEq, Repr

structure Elf where
  kind : Nat
  entry : UInt64
  segments : List Segment
  deriving DecidableEq, Repr

namespace Elf

def executable : Nat := 2

def shared : Nat := 3

def magic : List UInt8 := [0x7f, 0x45, 0x4c, 0x46]

def readHeader? (data : ByteArray) : Option ElfHeader := do
  let cls ← data[4]?
  let order ← data[5]?
  if order ≠ 1 ∧ order ≠ 2 then none
  let words : Words := ⟨data, order != 1⟩
  let kind ← words.half? 16
  let machine ← words.half? 18
  if cls = 2 then
    let entry ← words.long? 24
    let segmentsOffset ← words.long? 32
    let sectionsOffset ← words.long? 40
    let segmentsCount ← words.half? 56
    let sectionsCount ← words.half? 60
    let namesIndex ← words.half? 62
    some ⟨true, words.bigEndian, kind, machine, entry, segmentsOffset, segmentsCount,
      sectionsOffset, sectionsCount, namesIndex⟩
  else if cls = 1 then
    let entry ← words.word? 24
    let segmentsOffset ← words.word? 28
    let sectionsOffset ← words.word? 32
    let segmentsCount ← words.half? 44
    let sectionsCount ← words.half? 48
    let namesIndex ← words.half? 50
    some ⟨false, words.bigEndian, kind, machine, entry, segmentsOffset, segmentsCount,
      sectionsOffset, sectionsCount, namesIndex⟩
  else none

def address? (header : ElfHeader) (words : Words) (offset : Nat) : Option UInt64 :=
  (if header.is64 then words.long? offset else words.word? offset).map UInt64.ofNat

def segmentSize (header : ElfHeader) : Nat := if header.is64 then 56 else 32

def readSegment? (header : ElfHeader) (words : Words) (offset : Nat) : Option Segment := do
  let kind ← words.word? offset
  if header.is64 then
    let fileOffset ← address? header words (offset + 8)
    let address ← address? header words (offset + 16)
    let fileSize ← address? header words (offset + 32)
    let memorySize ← address? header words (offset + 40)
    let _ ← words.long? (offset + 48)
    some ⟨UInt32.ofNat kind, fileOffset, address, fileSize, memorySize⟩
  else
    let fileOffset ← address? header words (offset + 4)
    let address ← address? header words (offset + 8)
    let fileSize ← address? header words (offset + 16)
    let memorySize ← address? header words (offset + 20)
    let _ ← words.word? (offset + 28)
    some ⟨UInt32.ofNat kind, fileOffset, address, fileSize, memorySize⟩

def readSegments? (header : ElfHeader) (words : Words) : Option (List Segment) :=
  (List.range header.segmentsCount).mapM fun index =>
    readSegment? header words (header.segmentsOffset + index * segmentSize header)

end Elf

end ByteScan.Image
