import ByteScan.Image.Words

/-!
# PE images

A PE image begins with an old header that points to the actual one, which tells where the image is
to be entered and how its sections are laid out. Addresses in it count from where the image is
loaded.
-/

namespace ByteScan.Image

structure PeSection where
  address : UInt32
  memorySize : UInt32
  fileSize : UInt32
  offset : UInt32
  deriving DecidableEq, Repr

structure PeDirectory where
  address : UInt32
  size : UInt32
  deriving DecidableEq, Repr

def PeDirectory.isEmpty (directory : PeDirectory) : Bool :=
  directory.address == 0 && directory.size == 0

structure PeLoading where
  is64 : Bool
  entry : UInt32
  /-- Sections in the file begin and end at multiples of this number. -/
  alignment : Nat
  headersSize : UInt32
  directories : List PeDirectory
  deriving DecidableEq, Repr

structure Pe where
  machine : Nat
  /-- How the image is to be loaded, if the image says so. -/
  loading : Option PeLoading
  sections : List PeSection
  deriving DecidableEq, Repr

namespace Pe

def entry (pe : Pe) : UInt32 := (pe.loading.map PeLoading.entry).getD 0

def magic : List UInt8 := [0x4d, 0x5a]

def signature : Nat := 0x4550

def maxDirectories : Nat := 16

def readDirectory? (words : Words) (offset : Nat) : Option PeDirectory := do
  let address ← words.word? offset
  let size ← words.word? (offset + 4)
  some ⟨UInt32.ofNat address, UInt32.ofNat size⟩

/-- Reads how the image is to be loaded. There are two forms, for addresses of four and of eight
bytes, and at most sixteen directories follow. -/
def readLoading? (words : Words) (offset : Nat) : Option PeLoading := do
  let form ← words.half? offset
  let entry ← words.word? (offset + 16)
  let alignment ← words.word? (offset + 36)
  let headersSize ← words.word? (offset + 60)
  let (is64, countOffset) ←
    if form = 0x10b then some (false, offset + 92)
    else if form = 0x20b then some (true, offset + 108)
    else none
  let count ← words.word? countOffset
  if maxDirectories < count then none
  else
    let directories ← (List.range count).mapM fun index =>
      readDirectory? words (countOffset + 4 + 8 * index)
    some ⟨is64, UInt32.ofNat entry, alignment, UInt32.ofNat headersSize, directories⟩

def base64Digit? (byte : UInt8) : Option Nat :=
  let code := byte.toNat
  if 0x41 ≤ code ∧ code ≤ 0x5a then some (code - 0x41)
  else if 0x61 ≤ code ∧ code ≤ 0x7a then some (code - 0x61 + 26)
  else if 0x30 ≤ code ∧ code ≤ 0x39 then some (code - 0x30 + 52)
  else if code = 0x2b then some 62
  else if code = 0x2f then some 63
  else none

def readDigits? (base : Nat) (digit? : UInt8 → Option Nat) (bytes : List UInt8) : Option Nat :=
  bytes.foldlM (fun total byte => (digit? byte).map (total * base + ·)) 0

def decimalDigit? (byte : UInt8) : Option Nat :=
  if 0x30 ≤ byte ∧ byte ≤ 0x39 then some (byte.toNat - 0x30) else none

/-- Where a long name of a section stands in the table of texts, if the short name, up to its first
zero, says so by a stroke and a decimal number or two strokes and a number in base sixty-four. Fails
if there is no number. -/
def longName? (name : List UInt8) : Option (Option Nat) :=
  match name with
  | 0x2f :: 0x2f :: digits =>
    if 6 < digits.length then none
    else (readDigits? 64 base64Digit? digits).map some
  | 0x2f :: 0x2b :: digit :: digits => (readDigits? 10 decimalDigit? (digit :: digits)).map some
  | [0x2f] => none
  | 0x2f :: digits => (readDigits? 10 decimalDigit? digits).map some
  | _ => some none

def readSection? (words : Words) (texts offset : Nat) : Option PeSection := do
  let _ ← words.word? (offset + 36)
  let name := ((words.data.extract offset (offset + 8)).toList).takeWhile (· ≠ 0)
  let long ← longName? name
  if long.all fun place => words.textFits (texts + place) then
    let memorySize ← words.word? (offset + 8)
    let address ← words.word? (offset + 12)
    let fileSize ← words.word? (offset + 16)
    let fileOffset ← words.word? (offset + 20)
    some ⟨UInt32.ofNat address, UInt32.ofNat memorySize, UInt32.ofNat fileSize,
      UInt32.ofNat fileOffset⟩
  else none

def symbolSize : Nat := 18

def readHeaders? (data : ByteArray) : Option Pe := do
  let words : Words := ⟨data, false⟩
  if data.size < 128 then none
  else
    let start ← words.word? 60
    let found ← words.word? start
    if found ≠ signature then none
    else
      let machine ← words.half? (start + 4)
      let sectionCount ← words.half? (start + 6)
      let symbols ← words.word? (start + 12)
      let symbolCount ← words.word? (start + 16)
      let loadingSize ← words.half? (start + 20)
      let _ ← words.half? (start + 22)
      let loading ←
        if loadingSize = 0 then some none else (readLoading? words (start + 24)).map some
      if data.size / 40 < sectionCount then none
      else
        let texts := symbols + symbolCount * symbolSize
        let sections ← (List.range sectionCount).mapM fun index =>
          readSection? words texts (start + 24 + loadingSize + index * 40)
        some ⟨machine, loading, sections⟩

def offsetOf? (sections : List PeSection) (address : Nat) : Option Nat :=
  match sections.find? fun part =>
    part.address.toNat ≤ address &&
      address < part.address.toNat + max part.memorySize.toNat part.fileSize.toNat with
  | some part => some (address - part.address.toNat + part.offset.toNat)
  | none => none

end Pe

end ByteScan.Image
