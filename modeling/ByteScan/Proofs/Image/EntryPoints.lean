import ByteScan.Image.EntryPoint
import Mathlib.Data.List.Basic

/-!
# Entry points as exact numbers

Where a program begins is computed with words of sixty-four bits from numbers that the file chooses. The
main statement compares this with the same sums of unbounded numbers and tells which of them overflow:
`entryPoint_exact`.
-/

namespace ByteScan.Image

variable {first second address : UInt64}

/-! ## Sums -/

/-- What is computed with words is an exact number, or an overflow if that number is no word. -/
def IsExact (computed : Except Overflow (Option UInt64)) (number : Nat) : Prop :=
  if number < UInt64.size then ∃ word, computed = .ok (some word) ∧ word.toNat = number
  else computed = .error {}

theorem isExact_word (word : UInt64) : IsExact (.ok (some word)) word.toNat := by
  rw [IsExact, if_pos word.toNat_lt]
  exact ⟨word, rfl, rfl⟩

theorem addAddresses_of_lt (fits : first.toNat + second.toNat < UInt64.size) :
    ∃ sum, addAddresses first second = .ok sum ∧ sum.toNat = first.toNat + second.toNat := by
  refine ⟨_, if_pos fits, ?_⟩
  rw [UInt64.toNat_add]
  exact Nat.mod_eq_of_lt fits

theorem addAddresses_of_le (exceeds : UInt64.size ≤ first.toNat + second.toNat) :
    addAddresses first second = .error {} := if_neg (Nat.not_lt.mpr exceeds)

theorem isExact_addAddresses (first second : UInt64) :
    IsExact ((addAddresses first second).map some) (first.toNat + second.toNat) := by
  rw [IsExact]
  split
  · rename_i fits
    obtain ⟨sum, added, exact⟩ := addAddresses_of_lt fits
    exact ⟨sum, congrArg (Except.map some) added, exact⟩
  · rename_i exceeds
    rw [addAddresses_of_le (Nat.not_lt.mp exceeds)]
    rfl

/-! ## Segments -/

namespace Segment

/-- Where the addresses of a segment end, as it stands in the file. -/
def stop (segment : Segment) : Nat := segment.address.toNat + segment.fileSize.toNat

/-- The segment is loaded, and an address is one of its addresses. -/
def holds (segment : Segment) (address : UInt64) : Bool :=
  segment.isLoaded && segment.address.toNat ≤ address.toNat && address.toNat < segment.stop

def placeOf (segment : Segment) (address : UInt64) : Nat :=
  address.toNat - segment.address.toNat + segment.offset.toNat

end Segment

variable {segment : Segment}

theorem Segment.holds_iff : segment.holds address = true ↔
    segment.isLoaded = true ∧ segment.address ≤ address ∧ address.toNat < segment.stop := by
  rw [holds, Bool.and_eq_true, Bool.and_eq_true, decide_eq_true_eq, decide_eq_true_eq, and_assoc]
  exact Iff.rfl

theorem inSegment_of_holds (holds : segment.holds address = true) :
    inSegment address segment = if segment.stop < UInt64.size then .ok true else .error {} := by
  obtain ⟨-, starts, ends⟩ := Segment.holds_iff.mp holds
  rw [inSegment, if_pos starts]
  split
  · rename_i fits
    obtain ⟨stop, added, exact⟩ := addAddresses_of_lt fits
    have below : address < stop := UInt64.lt_iff_toNat_lt.mpr (exact ▸ ends)
    rw [added]
    exact congrArg Except.ok (decide_eq_true below)
  · rename_i exceeds
    rw [addAddresses_of_le (Nat.not_lt.mp exceeds)]
    rfl

/-- A segment that ends before an address ends at a word. -/
theorem inSegment_of_not_holds (loaded : segment.isLoaded = true)
    (outside : segment.holds address = false) : inSegment address segment = .ok false := by
  rw [inSegment]
  split
  · rename_i starts
    have ends : segment.stop ≤ address.toNat := by
      refine Nat.not_lt.mp fun below => ?_
      rw [Segment.holds_iff.mpr ⟨loaded, starts, below⟩] at outside
      cases outside
    have fits : segment.address.toNat + segment.fileSize.toNat < UInt64.size :=
      Nat.lt_of_le_of_lt ends address.toNat_lt
    obtain ⟨stop, added, exact⟩ := addAddresses_of_lt fits
    have above : stop ≤ address := UInt64.le_iff_toNat_le.mpr (exact ▸ ends)
    rw [added]
    exact congrArg Except.ok (decide_eq_false (UInt64.not_lt.mpr above))
  · rfl

/-- The search ends at the first segment that holds the address, and overflows only there. -/
theorem segmentOf_eq (address : UInt64) (segments : List Segment) :
    segmentOf address segments =
      match segments.find? (·.holds address) with
      | none => .ok none
      | some segment => if segment.stop < UInt64.size then .ok (some segment) else .error {} := by
  induction segments with
  | nil => rfl
  | cons segment segments ih =>
      rw [List.find?_cons, segmentOf]
      cases holds : segment.holds address with
      | true =>
          rw [if_pos (Segment.holds_iff.mp holds).1, inSegment_of_holds holds]
          dsimp only
          split <;> rfl
      | false =>
          split
          · rename_i loaded
            rw [inSegment_of_not_holds loaded holds]
            exact ih
          · exact ih

/-! ## Places in the file -/

namespace Elf

def entrySegment? (elf : Elf) : Option Segment := elf.segments.find? (·.holds elf.entry)

variable {elf : Elf}

theorem address_le_entry (found : elf.entrySegment? = some segment) :
    segment.address ≤ elf.entry := by
  have holds : segment.holds elf.entry = true :=
    List.find?_some (p := fun segment : Segment => segment.holds elf.entry) found
  exact (Segment.holds_iff.mp holds).2.1

theorem entryOffset_of_none (absent : elf.entrySegment? = none) : elf.entryOffset = .ok none := by
  rw [entrySegment?] at absent
  rw [entryOffset, segmentOf_eq, absent]
  rfl

theorem entryOffset_of_some (found : elf.entrySegment? = some segment) :
    if segment.stop < UInt64.size then IsExact elf.entryOffset (segment.placeOf elf.entry)
    else elf.entryOffset = .error {} := by
  have distance : (elf.entry - segment.address).toNat = elf.entry.toNat - segment.address.toNat :=
    UInt64.toNat_sub_of_le _ _ (address_le_entry found)
  rw [entrySegment?] at found
  rw [entryOffset, segmentOf_eq, found]
  dsimp only
  split
  · rw [Segment.placeOf, ← distance]
    exact isExact_addAddresses (elf.entry - segment.address) segment.offset
  · rfl

end Elf

/-! ## Addresses -/

/-- The address of the entry point as a number, if the data is an image that has one. -/
def exactAddress? (data : ByteArray) (base : UInt64) : Option Nat :=
  if beginsWith data Elf.magic then
    (Elf.ofData? data).bind fun elf =>
      if elf.kind = Elf.executable then some elf.entry.toNat
      else if elf.kind = Elf.shared then some (base.toNat + elf.entry.toNat)
      else none
  else if beginsWith data Pe.magic then
    (Pe.ofData? data).map fun pe => base.toNat + pe.entry.toNat
  else none

theorem entryPointAddress_exact (data : ByteArray) (base : UInt64) :
    match exactAddress? data base with
    | none => entryPointAddress data base = .ok none
    | some number => IsExact (entryPointAddress data base) number := by
  rw [entryPointAddress, exactAddress?]
  by_cases isElf : beginsWith data Elf.magic
  · rw [if_pos isElf, if_pos isElf]
    cases Elf.ofData? data with
    | none => rfl
    | some elf =>
        rw [Option.bind_some]
        dsimp only
        rw [Elf.entryAddress]
        by_cases isExecutable : elf.kind = Elf.executable
        · rw [if_pos isExecutable, if_pos isExecutable]
          exact isExact_word elf.entry
        · rw [if_neg isExecutable, if_neg isExecutable]
          by_cases isShared : elf.kind = Elf.shared
          · rw [if_pos isShared, if_pos isShared]
            exact isExact_addAddresses base elf.entry
          · rw [if_neg isShared, if_neg isShared]
  · rw [if_neg isElf, if_neg isElf]
    by_cases isPe : beginsWith data Pe.magic
    · rw [if_pos isPe, if_pos isPe]
      cases Pe.ofData? data with
      | none => rfl
      | some pe =>
          have exact := isExact_addAddresses base pe.entry.toUInt64
          rw [UInt32.toNat_toUInt64] at exact
          exact exact
    · rw [if_neg isPe, if_neg isPe]

/-- The entry point of an ELF image is looked for in the first loaded segment that holds it. Its place in
the file overflows if that segment ends beyond the last word or if the place is no word, and is the exact
number otherwise. The address of an entry point overflows only if it is no word. -/
theorem entryPoint_exact (elf : Elf) (data : ByteArray) (base : UInt64) :
    (match elf.entrySegment? with
      | none => elf.entryOffset = .ok none
      | some segment =>
        segment.address ≤ elf.entry ∧
          if segment.stop < UInt64.size then IsExact elf.entryOffset (segment.placeOf elf.entry)
          else elf.entryOffset = .error {}) ∧
    match exactAddress? data base with
    | none => entryPointAddress data base = .ok none
    | some number => IsExact (entryPointAddress data base) number := by
  refine ⟨?_, entryPointAddress_exact data base⟩
  split
  · rename_i absent
    exact Elf.entryOffset_of_none absent
  · rename_i segment found
    exact ⟨Elf.address_le_entry found, Elf.entryOffset_of_some found⟩

/-- The last page of the addresses ends beyond the last word, so an entry point in it has no place, although
its place is a small number. -/
theorem entryPointOffset_lastPage :
    let segment : Segment := ⟨1, 0, 0xfffffffffffff000, 0x1000, 0x1000⟩
    let elf : Elf := ⟨Elf.executable, 0xfffffffffffff080, [segment]⟩
    let data : ByteArray := ⟨#[
      0x7f, 0x45, 0x4c, 0x46, 2, 1, 1, 0, 0, 0, 0, 0, 0, 0, 0, 0,
      2, 0, 0x3e, 0, 1, 0, 0, 0, 0x80, 0xf0, 0xff, 0xff, 0xff, 0xff, 0xff, 0xff,
      0x40, 0, 0, 0, 0, 0, 0, 0, 0, 0, 0, 0, 0, 0, 0, 0,
      0, 0, 0, 0, 0x40, 0, 0x38, 0, 1, 0, 0x40, 0, 0, 0, 0, 0,
      1, 0, 0, 0, 5, 0, 0, 0, 0, 0, 0, 0, 0, 0, 0, 0,
      0, 0xf0, 0xff, 0xff, 0xff, 0xff, 0xff, 0xff, 0, 0xf0, 0xff, 0xff, 0xff, 0xff, 0xff, 0xff,
      0, 0x10, 0, 0, 0, 0, 0, 0, 0, 0x10, 0, 0, 0, 0, 0, 0,
      0, 0x10, 0, 0, 0, 0, 0, 0]⟩
    Elf.ofData? data = some elf ∧ elf.entrySegment? = some segment ∧
      segment.placeOf elf.entry = 0x80 ∧ entryPointOffset data = .error {} := by
  decide +kernel

end ByteScan.Image
