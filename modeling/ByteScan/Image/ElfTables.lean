import ByteScan.Image.Elf

/-!
# Tables of ELF images

An image is taken for an ELF image only if the tables that its headers point to lie within it: the
sections with symbols, relocations and versions, and what dynamic linking needs. What the tables say
does not matter otherwise.
-/

namespace ByteScan.Image

structure ElfSection where
  kind : Nat
  address : Nat
  offset : Nat
  size : Nat
  link : Nat
  entrySize : Nat
  deriving DecidableEq, Repr

namespace Elf

def sectionSize (header : ElfHeader) : Nat := if header.is64 then 64 else 40

def readSection? (header : ElfHeader) (words : Words) (offset : Nat) : Option ElfSection := do
  let kind ← words.word? (offset + 4)
  if header.is64 then
    let address ← words.long? (offset + 16)
    let fileOffset ← words.long? (offset + 24)
    let size ← words.long? (offset + 32)
    let link ← words.word? (offset + 40)
    let entrySize ← words.long? (offset + 56)
    some ⟨kind, address, fileOffset, size, link, entrySize⟩
  else
    let address ← words.word? (offset + 12)
    let fileOffset ← words.word? (offset + 16)
    let size ← words.word? (offset + 20)
    let link ← words.word? (offset + 24)
    let entrySize ← words.word? (offset + 36)
    some ⟨kind, address, fileOffset, size, link, entrySize⟩

/-- Reads the section headers. Where the header gives no count, the first section header does. -/
def readSections? (header : ElfHeader) (words : Words) : Option (List ElfSection) :=
  if header.sectionsOffset = 0 then some []
  else do
    let first ← readSection? header words header.sectionsOffset
    let count := if header.sectionsCount = 0 then first.size else header.sectionsCount
    if words.data.size / sectionSize header < count then none
    else
      let rest ← ((List.range count).drop 1).mapM fun index =>
        readSection? header words (header.sectionsOffset + index * sectionSize header)
      some (first :: rest)

def sectionFits (words : Words) (part : ElfSection) : Bool :=
  part.kind == 8 || part.size == 0 ||
    (part.offset + part.size ≤ words.data.size && part.address + part.size < UInt64.size)

/-- A table of texts lies within the file and is UTF-8. -/
def textsFit (words : Words) (offset size : Nat) : Bool :=
  offset + size ≤ words.data.size &&
    (String.fromUTF8? (words.data.extract offset (offset + size))).isSome

/-- The index that stands for an index kept in the first section header. -/
def extendedIndex : Nat := 0xffff

def textSectionFits (words : Words) (sections : List ElfSection) (index : Nat) : Bool :=
  let index :=
    if index = extendedIndex then (sections.head?.map ElfSection.link).getD index else index
  match sections[index]? with
  | some part => sectionFits words part && textsFit words part.offset part.size
  | none => true

def symbolSize (header : ElfHeader) : Nat := if header.is64 then 24 else 16

def symbolsFit (header : ElfHeader) (words : Words) (offset count : Nat) : Bool :=
  words.holds offset (count * symbolSize header)

def symbolSectionFits (header : ElfHeader) (words : Words) (sections : List ElfSection) : Bool :=
  match sections.reverse.find? fun part => part.kind == 2 with
  | some part =>
    let count := if part.entrySize = 0 then 0 else part.size / part.entrySize
    symbolsFit header words part.offset count && textSectionFits words sections part.link
  | none => true

def relocationsFit (words : Words) (offset size : Nat) : Bool :=
  size == 0 || words.holds offset size

def relocationSectionsFit (words : Words) (sections : List ElfSection) : Bool :=
  sections.all fun part =>
    (part.kind != 4 && part.kind != 9) ||
      (sectionFits words part && relocationsFit words part.offset part.size)

def firstSectionFits (words : Words) (sections : List ElfSection) (kind : Nat) : Bool :=
  match sections.find? fun part => part.kind == kind with
  | some part => words.holds part.offset part.size
  | none => true

def sectionsFit (header : ElfHeader) (words : Words) (sections : List ElfSection) : Bool :=
  textSectionFits words sections header.namesIndex && symbolSectionFits header words sections &&
    relocationSectionsFit words sections &&
    [0x6fffffff, 0x6ffffffd, 0x6ffffffe].all (firstSectionFits words sections)

/-! ## Dynamic linking -/

/-- What is needed for dynamic linking, as pairs of a tag and a value. -/
abbrev DynamicEntries := List (Nat × Nat)

/-- Reads entries up to the one that ends them. -/
def readEntries? (header : ElfHeader) (words : Words) : Nat → Nat → Option DynamicEntries
  | 0, _ => some []
  | count + 1, offset => do
    let width := if header.is64 then 8 else 4
    let tag ← words.read? width offset
    let value ← words.read? width (offset + width)
    if tag = 0 then some [(tag, value)]
    else
      let rest ← readEntries? header words count (offset + 2 * width)
      some ((tag, value) :: rest)

def placeOf? (segments : List Segment) (address : Nat) : Option Nat :=
  match segments.find? fun segment =>
    segment.isLoaded && segment.address.toNat ≤ address &&
      address - segment.address.toNat < segment.memorySize.toNat with
  | some segment =>
    let place := segment.offset.toNat + (address - segment.address.toNat)
    if place < UInt64.size then some place else none
  | none => none

def tagged? (entries : DynamicEntries) (tag : Nat) : Option Nat :=
  (entries.reverse.find? fun entry => entry.1 == tag).map Prod.snd

def entryPlace? (segments : List Segment) (entries : DynamicEntries) (tag : Nat) : Option Nat :=
  (tagged? entries tag).bind (placeOf? segments)

def largestSymbol (header : ElfHeader) (words : Words) (withAddend : Bool) (offset size : Nat) :
    Nat :=
  let width := if header.is64 then 8 else 4
  let entrySize := if withAddend then 3 * width else 2 * width
  let symbols := (List.range (size / entrySize)).map fun index =>
    let info := (words.read? width (offset + index * entrySize + width)).getD 0
    if header.is64 then info >>> 32 else info >>> 8
  symbols.foldl max 0

/-- The number of the first of some chained hashes from a place on that ends its chain, plus one. -/
def chainEnd? (words : Words) : Nat → Nat → Nat → Option Nat
  | 0, _, _ => none
  | fuel + 1, offset, number => do
    let hash ← words.word? offset
    if hash % 2 = 1 then some (number + 1) else chainEnd? words fuel (offset + 4) (number + 1)

def chainedCount? (header : ElfHeader) (words : Words) (offset : Nat) : Option Nat := do
  let buckets ← words.word? offset
  let least ← words.word? (offset + 4)
  let filter ← words.word? (offset + 8)
  if buckets = 0 ∨ least = 0 ∨ filter = 0 then none
  else
    let bucketsOffset := offset + 16 + filter * (if header.is64 then 8 else 4)
    if words.data.size < bucketsOffset + 4 * buckets then none
    else
      let heads ← (List.range buckets).mapM fun index => words.word? (bucketsOffset + 4 * index)
      let largest := heads.foldl max 0
      if largest < least then some 0
      else
        chainEnd? words words.data.size (bucketsOffset + 4 * buckets + 4 * (largest - least))
          largest

def plainCount? (header : ElfHeader) (words : Words) (offset : Nat) : Option Nat :=
  let wide := header.is64 && (header.machine == 41 || header.machine == 22)
  words.read? (if wide then 8 else 4) (offset + 4)

def hashedCount? (header : ElfHeader) (words : Words) (segments : List Segment)
    (entries : DynamicEntries) : Option Nat :=
  match entryPlace? segments entries 0x6ffffef5 with
  | some offset => chainedCount? header words offset
  | none =>
    match entryPlace? segments entries 4 with
    | some offset => plainCount? header words offset
    | none => some 0

def entriesFit (header : ElfHeader) (words : Words) (segments : List Segment)
    (entries : DynamicEntries) : Bool :=
  let place (tag : Nat) := (entryPlace? segments entries tag).getD 0
  let value (tag : Nat) := (tagged? entries tag).getD 0
  let tables := [(true, place 7, value 8), (false, place 17, value 18),
    (value 20 == 7, place 23, value 2)]
  textsFit words (place 5) (value 10) &&
    (tables.all fun table => relocationsFit words table.2.1 table.2.2) &&
    match hashedCount? header words segments entries with
    | none => false
    | some hashed =>
      let largest := tables.foldl
        (fun largest table =>
          max largest (largestSymbol header words table.1 table.2.1 table.2.2)) 0
      let count := if largest = 0 then hashed else max hashed (largest + 1)
      symbolsFit header words (place 6) count

def dynamicFits (header : ElfHeader) (words : Words) (segments : List Segment) : Bool :=
  match segments.find? Segment.isDynamic with
  | none => true
  | some segment =>
    let offset := segment.offset.toNat
    let size := segment.fileSize.toNat
    (size == 0 || words.holds offset size) &&
      match readEntries? header words (size / if header.is64 then 16 else 8) offset with
      | some entries => entriesFit header words segments entries
      | none => false

def ofData? (data : ByteArray) : Option Elf := do
  if data.size < 16 then none
  else
    let header ← readHeader? data
    let words : Words := ⟨data, header.bigEndian⟩
    let segments ← readSegments? header words
    let sections ← readSections? header words
    if sectionsFit header words sections && dynamicFits header words segments then
      some ⟨header.kind, UInt64.ofNat header.entry, segments⟩
    else none

end Elf

end ByteScan.Image
