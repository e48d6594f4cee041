import ByteScan.Condition.Instruction
import ByteScan.Proofs.Strict.Results

/-!
# Decoding without reaching beyond

The strict forms of the readers of condition code. They take slices of the code, first bytes of slices
and words of exactly four or eight bytes. Whatever the code holds, they do what the readers do, and an
instruction that is taken leaves less code than there was: `takeInstruction_ran`.
-/

namespace ByteScan.Strict

/-- Takes something off the front of condition code. -/
abbrev Decoding (α : Type) := StateT CodePlace (ExceptT CodeFault Option) α

/-! ## The readers -/

/-- The bytes of a slice, which has to have a given length. -/
def exactly (count : Nat) (bytes : List UInt8) : Option (List UInt8) :=
  if bytes.length = count then some bytes else none

def takeSlice (count : Nat) : Decoding (List UInt8) := fun place =>
  if hasAtLeast count place.rest then do
    let bytes ← demand (exactly count (place.rest.take count))
    some (.ok (bytes, ⟨place.position + count, place.rest.drop count⟩))
  else some (.error (.truncated place.position))

def firstOf (bytes : List UInt8) : Decoding UInt8 :=
  (demand bytes[0]? : ExceptT CodeFault Option UInt8)

def takeWord : Decoding UInt32 := do
  let bytes ← takeSlice 4
  pure (UInt32.ofNat (LittleEndian.value bytes))

def takeLongWord : Decoding UInt64 := do
  let bytes ← takeSlice 8
  pure (UInt64.ofNat (LittleEndian.value bytes))

def takeOwnString (strings : Nat) : Decoding UInt32 := do
  let number ← takeWord
  if number.toNat < strings then pure number else throw (.unknownString number.toNat)

def takeOwnRule (rules : Nat) : Decoding UInt32 := do
  let number ← takeWord
  if number.toNat < rules then pure number else throw (.unknownRule number.toNat)

def takeOperands (strings rules position : Nat) (kind : UInt8) : Decoding Instruction :=
  match kind.toNat with
  | 0x00 => pure .halt
  | 0x01 => do
    let value ← takeLongWord
    pure (.pushInteger value.toInt64)
  | 0x02 => do
    let value ← takeLongWord
    pure (.pushFloat ⟨value⟩)
  | 0x03 => do
    let bytes ← takeSlice 1
    let value ← firstOf bytes
    pure (.pushBoolean (value ≠ 0))
  | 0x04 => pure .pushUndefined
  | 0x05 => do
    let length ← takeWord
    let bytes ← takeSlice length.toNat
    pure (.pushBytes bytes)
  | 0x10 => do
    let string ← takeOwnString strings
    pure (.found string)
  | 0x11 => do
    let string ← takeOwnString strings
    pure (.count string)
  | 0x12 => do
    let string ← takeOwnString strings
    pure (.foundAt string)
  | 0x13 => do
    let string ← takeOwnString strings
    pure (.foundIn string)
  | 0x14 => do
    let rule ← takeOwnRule rules
    let minimum ← takeWord
    pure (.ofThem rule minimum)
  | 0x20 => pure .fileSize
  | 0x21 => pure .entryPoint
  | 0x22 => do
    let rule ← takeOwnRule rules
    pure (.rule rule)
  | 0x23 => do
    let index ← takeWord
    pure (.external index)
  | 0x30 => pure .not
  | 0x31 => pure .and
  | 0x32 => pure .or
  | 0x40 => pure (.compare .equal)
  | 0x41 => pure (.compare .notEqual)
  | 0x42 => pure (.compare .lessThan)
  | 0x43 => pure (.compare .lessEqual)
  | 0x44 => pure (.compare .greaterThan)
  | 0x45 => pure (.compare .greaterEqual)
  | 0x46 => pure .contains
  | 0x50 => do
    let rule ← takeOwnRule rules
    pure (.verdict rule)
  | _ => throw (.unknownKind kind position)

def takeInstruction (strings rules : Nat) : Decoding Instruction := do
  let place ← get
  let bytes ← takeSlice 1
  let kind ← firstOf bytes
  takeOperands strings rules place.position kind

/-! ## What they take -/

def NamesRules (rules : Nat) : Instruction → Prop
  | .ofThem rule _ | .verdict rule => rule.toNat < rules
  | _ => True

/-- A strict reader of condition code does what the other one does, and leaves no more code than there
was. -/
def Decodes (strict : Decoding α) (plain : CodePlace → Except CodeFault (α × CodePlace))
    (good : α → Prop) : Prop :=
  ∀ place, Ran (fun _ => True) (strict place) (plain place) fun result =>
    good result.1 ∧ result.2.rest.length ≤ place.rest.length

namespace Decodes

variable {strict : Decoding α} {plain : CodePlace → Except CodeFault (α × CodePlace)}
  {middle : α → Prop} {good : β → Prop}

theorem bind (first : Decodes strict plain middle) {next : α → Decoding β}
    {following : α → CodePlace → Except CodeFault (β × CodePlace)}
    (second : ∀ value, middle value → Decodes (next value) (following value) good) :
    Decodes (strict >>= next) (fun place => plain place >>= fun taken => following taken.1 taken.2)
      good := by
  intro place
  apply (first place).next
  rintro value rest ⟨holds, fewer⟩
  apply (second value holds rest).imp
  rintro ⟨_, last⟩ ⟨isGood, fewest⟩
  exact ⟨isGood, Nat.le_trans fewest fewer⟩

theorem pure {value : α} (holds : middle value) :
    Decodes (Pure.pure value) (fun place => .ok (value, place)) middle :=
  fun _ => Ran.pure ⟨holds, Nat.le_refl _⟩

theorem build {rules : Nat} (first : Decodes strict plain middle) (make : α → Instruction)
    (names : ∀ value, middle value → NamesRules rules (make value)) :
    Decodes (strict >>= fun value => Pure.pure (make value))
      (fun place => plain place >>= fun taken => .ok (make taken.1, taken.2)) (NamesRules rules) :=
  first.bind fun value holds => pure (names value holds)

end Decodes

theorem takeSlice_decodes (count : Nat) :
    Decodes (takeSlice count) (CodePlace.takeBytes count) (·.length = count) := by
  intro place
  unfold takeSlice CodePlace.takeBytes
  by_cases enough : hasAtLeast count place.rest = true
  · have within := List.length_take_of_le ((hasAtLeast_iff _ _).mp enough)
    have exact : exactly count (place.rest.take count) = some (place.rest.take count) :=
      if_pos within
    rw [if_pos enough, if_pos enough, demand_bind exact]
    refine ⟨rfl, within, ?_⟩
    rw [List.length_drop]
    exact Nat.sub_le _ _
  · rw [if_neg enough, if_neg enough]
    exact ⟨rfl, trivial⟩

theorem firstOf_bind (byte : UInt8) (next : UInt8 → Decoding α) :
    firstOf [byte] >>= next = next byte := rfl

theorem takeWord_decodes : Decodes takeWord CodePlace.takeWord fun _ => True :=
  (takeSlice_decodes 4).bind fun _ _ => Decodes.pure trivial

theorem takeLongWord_decodes : Decodes takeLongWord CodePlace.takeLongWord fun _ => True :=
  (takeSlice_decodes 8).bind fun _ _ => Decodes.pure trivial

theorem takeOwnString_decodes (strings : Nat) :
    Decodes (takeOwnString strings) (CodePlace.takeString strings) fun _ => True := by
  intro place
  apply (takeWord_decodes place).next
  rintro number rest ⟨_, fewer⟩
  apply Ran.ite
  · intro _
    exact Ran.pure ⟨trivial, fewer⟩
  · intro _
    exact ⟨rfl, trivial⟩

theorem takeOwnRule_decodes (rules : Nat) :
    Decodes (takeOwnRule rules) (CodePlace.takeRule rules) (·.toNat < rules) := by
  intro place
  apply (takeWord_decodes place).next
  rintro number rest ⟨_, fewer⟩
  apply Ran.ite
  · intro known
    exact Ran.pure ⟨known, fewer⟩
  · intro _
    exact ⟨rfl, trivial⟩

theorem takeOperands_ran (strings rules position : Nat) (kind : UInt8) (rest : List UInt8) :
    Ran (fun _ => True) (takeOperands strings rules position kind ⟨position + 1, rest⟩)
      (CodePlace.takeInstruction strings rules ⟨position, kind :: rest⟩) fun result =>
        NamesRules rules result.1 ∧ result.2.rest.length ≤ rest.length := by
  unfold takeOperands CodePlace.takeInstruction
  dsimp only
  generalize kind.toNat = number
  have alone (instruction : Instruction) (names : NamesRules rules instruction) :
      Ran (fun _ => True) ((pure instruction : Decoding Instruction) ⟨position + 1, rest⟩)
        (.ok (instruction, ⟨position + 1, rest⟩)) fun result =>
          NamesRules rules result.1 ∧ result.2.rest.length ≤ rest.length :=
    Ran.pure ⟨names, Nat.le_refl _⟩
  -- The kinds come in the order of their numbers.
  split
  · exact alone .halt trivial
  · exact takeLongWord_decodes.build (fun value => .pushInteger value.toInt64)
      (fun _ _ => trivial) _
  · exact takeLongWord_decodes.build (fun value => .pushFloat ⟨value⟩) (fun _ _ => trivial) _
  · apply (takeSlice_decodes 1 _).next
    rintro bytes place ⟨length, fewer⟩
    obtain ⟨byte, rfl⟩ := List.length_eq_one_iff.mp length
    have zero : LittleEndian.value [byte] ≠ 0 ↔ byte ≠ 0 := by
      rw [LittleEndian.value, LittleEndian.value, Nat.mul_zero, Nat.add_zero, Ne, Ne,
        ← UInt8.toNat_inj, UInt8.toNat_zero]
    rw [firstOf_bind]
    simp only [zero]
    exact Ran.pure ⟨trivial, fewer⟩
  · exact alone .pushUndefined trivial
  · apply (takeWord_decodes _).next
    rintro length place ⟨_, fewer⟩
    apply (((takeSlice_decodes length.toNat).build .pushBytes fun _ _ => trivial) place).imp
    rintro ⟨_, last⟩ ⟨names, fewest⟩
    exact ⟨names, Nat.le_trans fewest fewer⟩
  · exact (takeOwnString_decodes strings).build .found (fun _ _ => trivial) _
  · exact (takeOwnString_decodes strings).build .count (fun _ _ => trivial) _
  · exact (takeOwnString_decodes strings).build .foundAt (fun _ _ => trivial) _
  · exact (takeOwnString_decodes strings).build .foundIn (fun _ _ => trivial) _
  · apply (takeOwnRule_decodes rules _).next
    rintro rule place ⟨known, fewer⟩
    apply ((takeWord_decodes.build (.ofThem rule) fun _ _ => known) place).imp
    rintro ⟨_, last⟩ ⟨names, fewest⟩
    exact ⟨names, Nat.le_trans fewest fewer⟩
  · exact alone .fileSize trivial
  · exact alone .entryPoint trivial
  · exact (takeOwnRule_decodes rules).build .rule (fun _ _ => trivial) _
  · exact takeWord_decodes.build .external (fun _ _ => trivial) _
  · exact alone .not trivial
  · exact alone .and trivial
  · exact alone .or trivial
  · exact alone (.compare .equal) trivial
  · exact alone (.compare .notEqual) trivial
  · exact alone (.compare .lessThan) trivial
  · exact alone (.compare .lessEqual) trivial
  · exact alone (.compare .greaterThan) trivial
  · exact alone (.compare .greaterEqual) trivial
  · exact alone .contains trivial
  · exact (takeOwnRule_decodes rules).build .verdict (fun _ known => known) _
  -- Another byte is of no kind on either side.
  · simp_all
    exact ⟨rfl, trivial⟩

/-- Whatever condition code holds, taking an instruction does not reach beyond it, and less code is
left afterwards. -/
theorem takeInstruction_ran (strings rules : Nat) (place : CodePlace) :
    Ran (fun _ => True) (takeInstruction strings rules place)
      (place.takeInstruction strings rules) fun result =>
        NamesRules rules result.1 ∧ result.2.rest.length < place.rest.length := by
  obtain ⟨position, rest⟩ := place
  cases rest with
  | nil => exact ⟨rfl, trivial⟩
  | cons kind rest =>
      apply (takeOperands_ran strings rules position kind rest).imp
      rintro ⟨_, last⟩ ⟨names, fewer⟩
      exact ⟨names, Nat.lt_succ_of_le fewer⟩

end ByteScan.Strict
