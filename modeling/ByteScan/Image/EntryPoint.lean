import ByteScan.Image.ElfTables
import ByteScan.Image.PeTables

/-!
# Entry points

Where a program begins is a place in its file, or an address where it has been loaded. Addresses are
words of sixty-four bits, and a sum of two of them that is no such word is an overflow.
-/

namespace ByteScan.Image

/-- A sum of addresses is no address. -/
structure Overflow where
  deriving DecidableEq, Repr

def addAddresses (first second : UInt64) : Except Overflow UInt64 :=
  if first.toNat + second.toNat < UInt64.size then .ok (first + second) else .error {}

def inSegment (address : UInt64) (segment : Segment) : Except Overflow Bool :=
  if segment.address ≤ address then do
    let stop ← addAddresses segment.address segment.fileSize
    .ok (address < stop)
  else .ok false

def segmentOf (address : UInt64) : List Segment → Except Overflow (Option Segment)
  | [] => .ok none
  | segment :: segments =>
    if segment.isLoaded then do
      if ← inSegment address segment then .ok (some segment) else segmentOf address segments
    else segmentOf address segments

namespace Elf

def entryOffset (elf : Elf) : Except Overflow (Option UInt64) := do
  match ← segmentOf elf.entry elf.segments with
  | some segment => do
    let offset ← addAddresses (elf.entry - segment.address) segment.offset
    .ok (some offset)
  | none => .ok none

def entryAddress (elf : Elf) (base : UInt64) : Except Overflow (Option UInt64) :=
  if elf.kind = executable then .ok (some elf.entry)
  else if elf.kind = shared then (addAddresses base elf.entry).map some
  else .ok none

end Elf

namespace Pe

/-- Where the first instruction stands in the file. The headers stand where they are loaded. -/
def entryOffset? (pe : Pe) : Option UInt64 :=
  match offsetOf? pe.sections pe.entry.toNat with
  | some offset => some (UInt64.ofNat offset)
  | none =>
    match pe.loading with
    | some loading => if pe.entry < loading.headersSize then some pe.entry.toUInt64 else none
    | none => none

def entryAddress (pe : Pe) (base : UInt64) : Except Overflow UInt64 :=
  addAddresses base pe.entry.toUInt64

end Pe

def beginsWith (data : ByteArray) (bytes : List UInt8) : Bool :=
  (data.extract 0 bytes.length).toList == bytes

def entryPointOffset (data : ByteArray) : Except Overflow (Option UInt64) :=
  if beginsWith data Elf.magic then
    match Elf.ofData? data with
    | some elf => elf.entryOffset
    | none => .ok none
  else if beginsWith data Pe.magic then .ok ((Pe.ofData? data).bind Pe.entryOffset?)
  else .ok none

def entryPointAddress (data : ByteArray) (base : UInt64) : Except Overflow (Option UInt64) :=
  if beginsWith data Elf.magic then
    match Elf.ofData? data with
    | some elf => elf.entryAddress base
    | none => .ok none
  else if beginsWith data Pe.magic then
    match Pe.ofData? data with
    | some pe => (pe.entryAddress base).map some
    | none => .ok none
  else .ok none

end ByteScan.Image
