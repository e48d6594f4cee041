import ByteScan.Image.Pe

/-!
# Tables of PE images

An image is taken for a PE image only if the tables that its header points to are in order: what is
imported, what is known for debugging, how exceptions are handled and how the image is signed. What
the tables say does not matter otherwise, and the other tables are not looked at.
-/

namespace ByteScan.Image

namespace Words

/-- Every number of `width` bytes, from an offset up to the first zero, is fit, and there is a
zero. -/
def allUntilZero (words : Words) (width : Nat) (fits : Nat → Bool) (offset : Nat) : Bool :=
  if _within : 0 < width ∧ offset + width ≤ words.data.size then
    match words.read? width offset with
    | some 0 => true
    | some number => fits number && allUntilZero words width fits (offset + width)
    | none => false
  else false
termination_by words.data.size - offset
decreasing_by omega

end Words

/-- A multiple of `unit` that is not below a size, if `unit` is not zero. -/
def roundUp (unit size : Nat) : Nat := (size + unit - 1) / unit * unit

namespace PeSection

def filePiece : Nat := 512

def page : Nat := 4096

def piecesOffset (part : PeSection) : Nat := part.offset.toNat / filePiece * filePiece

/-- How many bytes of the file are loaded for a section, where sections in the file are aligned. -/
def loadedSize (part : PeSection) (alignment : Nat) : Nat :=
  let stop := roundUp alignment (part.offset.toNat + part.fileSize.toNat)
  let size := min (stop - part.piecesOffset) (roundUp page part.fileSize.toNat)
  if part.memorySize = 0 then size else min size (roundUp page part.memorySize.toNat)

def placeOf? (part : PeSection) (alignment address : Nat) : Option Nat :=
  if part.address.toNat ≤ address ∧ address < part.address.toNat + part.loadedSize alignment then
    some (address - part.address.toNat + part.piecesOffset)
  else none

end PeSection

/-- A PE image as its tables are looked for: the data and what its headers say. -/
structure PeTables where
  words : Words
  pe : Pe

namespace PeTables

/-- The place in the file of an address. There is none unless the alignment is a power of two. -/
def placeOf? (tables : PeTables) (address : Nat) : Option Nat := do
  let loading ← tables.pe.loading
  if loading.alignment ≠ 0 ∧ loading.alignment &&& (loading.alignment - 1) = 0 then
    tables.pe.sections.findSome? fun part => part.placeOf? loading.alignment address
  else none

def nameFits (tables : PeTables) (address : Nat) : Bool :=
  (tables.placeOf? address).any (tables.words.textFits ·)

/-! ## Imports -/

def importWidth (loading : PeLoading) : Nat := if loading.is64 then 8 else 4

/-- An import is in order: it has a number, or it has a hint and a name, or neither is in the
file. -/
def importFits (tables : PeTables) (loading : PeLoading) (entry : Nat) : Bool :=
  if 1 <<< (8 * importWidth loading - 1) ≤ entry then true
  else
    match tables.placeOf? (entry % 0x80000000) with
    | some place => (tables.words.half? place).isSome && tables.words.textFits (place + 2)
    | none => true

/-- What is imported from one library is in order. It has a name, and a list of addresses that is in
the file; the imports are listed apart or, if that list is not in the file, among the addresses. -/
def libraryFits (tables : PeTables) (loading : PeLoading) (lookup name addresses : Nat) : Bool :=
  let width := importWidth loading
  tables.nameFits name &&
    ((tables.placeOf? lookup).or (tables.placeOf? addresses)).all
      (tables.words.allUntilZero width (tables.importFits loading)) &&
    (tables.placeOf? addresses).any (tables.words.allUntilZero width fun _ => true)

def librarySize : Nat := 20

def librariesFit (tables : PeTables) (loading : PeLoading) (offset : Nat) : Bool :=
  if _within : offset + librarySize ≤ tables.words.data.size then
    match (List.range 5).mapM fun index => tables.words.word? (offset + 4 * index) with
    | some [0, 0, 0, 0, 0] => true
    | some [lookup, _, _, name, addresses] =>
      tables.libraryFits loading lookup name addresses &&
        librariesFit tables loading (offset + librarySize)
    | _ => false
  else false
termination_by tables.words.data.size - offset
decreasing_by
  simp only [librarySize] at *
  omega

/-! ## Debugging, exceptions and signatures -/

def debugFileKind : Nat := 2

def debugFileSignature : Nat := 0x53445352

def debugFileStart : Nat := 24

def debugRecordFits (words : Words) (size place : Nat) : Bool :=
  debugFileStart ≤ size &&
    match words.word? place with
    | some signature =>
      signature != debugFileSignature || place + size ≤ words.data.size
    | none => false

/-- What is known for debugging is in order. Only the first entry counts. -/
def debugFits (tables : PeTables) (directory : PeDirectory) : Bool :=
  ((tables.placeOf? directory.address.toNat).bind fun place => do
    let kind ← tables.words.word? (place + 12)
    let size ← tables.words.word? (place + 16)
    let record ← tables.words.word? (place + 24)
    some (kind != debugFileKind || debugRecordFits tables.words size record)).getD false

def tableMachine : Nat := 0x8664

def functionSize : Nat := 12

def exceptionsFit (tables : PeTables) (directory : PeDirectory) : Bool :=
  tables.pe.machine != tableMachine ||
    (directory.size.toNat % functionSize == 0 &&
      (tables.placeOf? directory.address.toNat).any fun place => place % 4 == 0)

def certificateRevisions : List Nat := [0x100, 0x200]

def certificateKinds : List Nat := [1, 2, 3, 4]

def certificateStart : Nat := 8

/-- The certificates from an offset on are in order. Each begins at a multiple of eight bytes. -/
def certificatesFit (words : Words) (stop offset : Nat) : Bool :=
  if offset < stop then
    match words.word? offset, words.half? (offset + 4), words.half? (offset + 6) with
    | some size, some revision, some kind =>
      let next := offset + max size certificateStart
      next ≤ words.data.size && certificateRevisions.contains revision &&
        certificateKinds.contains kind && certificatesFit words stop (roundUp 8 next)
    | _, _, _ => false
  else true
termination_by stop - offset
decreasing_by
  simp only [roundUp, certificateStart]
  omega

/-- The directory of certificates gives a place in the file, not an address. -/
def signaturesFit (words : Words) (directory : PeDirectory) : Bool :=
  let stop := directory.address.toNat + directory.size.toNat
  stop ≤ words.data.size && certificatesFit words stop directory.address.toNat

/-! ## All tables -/

def directoryFits (loading : PeLoading) (index : Nat) (fits : PeDirectory → Bool) : Bool :=
  match loading.directories[index]? with
  | some directory => directory.isEmpty || fits directory
  | none => true

def fit (tables : PeTables) : Bool :=
  match tables.pe.loading with
  | some loading =>
    directoryFits loading 1
        (fun directory =>
          (tables.placeOf? directory.address.toNat).any (tables.librariesFit loading)) &&
      directoryFits loading 6 tables.debugFits &&
      directoryFits loading 3 tables.exceptionsFit &&
      directoryFits loading 4 (signaturesFit tables.words)
  | none => true

end PeTables

namespace Pe

def ofData? (data : ByteArray) : Option Pe := do
  let pe ← readHeaders? data
  if PeTables.fit ⟨⟨data, false⟩, pe⟩ then some pe else none

end Pe

end ByteScan.Image
