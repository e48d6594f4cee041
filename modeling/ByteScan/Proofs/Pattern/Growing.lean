import ByteScan.Proofs.Pattern.Spelling

/-!
# Growth of hex patterns

The length of a hex pattern is compared with its limit where a jump ends, and nowhere else. A pattern is
therefore within the limit up to its last jump, and as long as the pairs after that make it:
`ofText_length`.
-/

namespace ByteScan.HexPattern

variable {bytes head rest : List MaskedByte} {count : Nat} {text front tail : List Char}

theorem Spells.append (frontSpells : Spells count front head)
    (tailSpells : Spells (count + head.length) tail rest) :
    Spells count (front ++ tail) (head ++ rest) := by
  induction frontSpells with
  | nil => exact tailSpells
  | cons means spells ih =>
      rw [List.length_append, ← Nat.add_assoc] at tailSpells
      rw [List.append_assoc, List.append_assoc]
      exact .cons means (ih tailSpells)

theorem spells_singles (digitwise : ∀ byte ∈ bytes, byte.IsDigitwise) :
    Spells count (bytes.flatMap fun byte => (Piece.single byte).token.text) bytes := by
  induction bytes generalizing count with
  | nil => exact .nil
  | cons byte bytes ih =>
      rw [List.forall_mem_cons] at digitwise
      rw [List.flatMap_cons]
      exact .cons (means_single digitwise.1) (ih digitwise.2)

theorem IsNibble.isOpen {digit : Char} {value mask : Nat} (isNibble : IsNibble digit value mask) :
    digit ≠ ']' := by
  rintro rfl
  cases isNibble with
  | given read => cases read

/-- A spelling can be split after its last jump. What comes before is within the limit, and what comes
after has two digits for each byte. -/
theorem Spells.split (spells : Spells count text bytes) :
    ∃ front tail head rest, text = front ++ tail ∧ bytes = head ++ rest ∧
      (front = [] ∧ head = [] ∨ front.getLast? = some ']' ∧ count + head.length ≤ lengthLimit) ∧
      Spells count front head ∧ ']' ∉ tail ∧ tail.length = 2 * rest.length := by
  induction spells with
  | nil => exact ⟨[], [], [], [], rfl, rfl, .inl ⟨rfl, rfl⟩, .nil, nofun, rfl⟩
  | @cons count first textRest bytesRest token means spells ih =>
      obtain ⟨front, tail, head, rest, rfl, rfl, ends, frontSpells, noJump, twice⟩ := ih
      rcases ends with ⟨rfl, rfl⟩ | ⟨last, fits⟩
      · cases means with
        | @pair high _ _ low _ _ isHigh isLow =>
            refine ⟨[], high :: low :: tail, [], _, rfl, rfl, .inl ⟨rfl, rfl⟩, .nil, ?_, ?_⟩
            · rw [List.mem_cons, List.mem_cons, not_or, not_or]
              exact ⟨isHigh.isOpen.symm, isLow.isOpen.symm, noJump⟩
            · rw [List.length_cons, List.length_cons, twice]
              rfl
        | jump isExtent short fits =>
            have means := Token.Means.jump isExtent short fits
            refine ⟨_, tail, _, rest, rfl, rfl, .inr ⟨?_, ?_⟩, ?_, noJump, twice⟩
            · rw [Token.text, ← List.cons_append, List.getLast?_append, List.getLast?_singleton,
                Option.some_or]
            · rwa [List.length_replicate]
            · simpa using Spells.cons means .nil
      · refine ⟨token.text ++ front, tail, first ++ head, rest, ?_, ?_, .inr ⟨?_, ?_⟩,
          .cons means frontSpells, noJump, twice⟩
        · rw [List.append_assoc]
        · rw [List.append_assoc]
        · rw [List.getLast?_append, last, Option.some_or]
        · rwa [List.length_append, ← Nat.add_assoc]

theorem solid_append (front tail : String) : solid (front ++ tail) = solid front ++ solid tail := by
  rw [solid, String.toList_append, List.filter_append]
  rfl

/-- However long a pattern is, any bytes can be added to it. -/
theorem ofText_append {source : String} {more : List MaskedByte}
    (isRead : ofText source = .ok bytes) (digitwise : ∀ byte ∈ more, byte.IsDigitwise) :
    ofText (source ++ written (more.map .single)) = .ok (bytes ++ more) := by
  have added : Spells (0 + bytes.length) _ more := spells_singles digitwise
  rw [ofText_eq_ok_iff, solid_append, written, List.flatMap_map, added.solid_ofList]
  exact (ofText_eq_ok_iff.mp isRead).append added

/-- Up to its last jump a pattern is within the limit. It is so as a whole if the digits after that jump
are no more than there is room for. -/
theorem ofText_length {source : String} (isRead : ofText source = .ok bytes) :
    ∃ front tail head, solid source = front ++ tail ∧
      (front = [] ∨ front.getLast? = some ']') ∧ ']' ∉ tail ∧
      Spells 0 front head ∧ head <+: bytes ∧ head.length ≤ lengthLimit ∧
      (bytes.length ≤ lengthLimit ↔ tail.length ≤ 2 * (lengthLimit - head.length)) := by
  obtain ⟨front, tail, head, rest, isText, rfl, ends, frontSpells, noJump, twice⟩ :=
    (ofText_eq_ok_iff.mp isRead).split
  have fits : head.length ≤ lengthLimit := by
    rcases ends with ⟨-, rfl⟩ | ⟨-, fits⟩
    · exact Nat.zero_le _
    · rwa [Nat.zero_add] at fits
  refine ⟨front, tail, head, isText, ends.imp And.left And.left, noJump, frontSpells,
    List.prefix_append head rest, fits, ?_⟩
  rw [List.length_append, twice]
  omega

theorem ofText_length_pair : ofText "[2]4?" = .ok [⟨0, 0⟩, ⟨0, 0⟩, ⟨0x40, 0xf0⟩] ∧
    ∃ front tail head, solid "[2]4?" = front ++ tail ∧
      (front = [] ∨ front.getLast? = some ']') ∧ ']' ∉ tail ∧
      Spells 0 front head ∧ head <+: [⟨0, 0⟩, ⟨0, 0⟩, ⟨0x40, 0xf0⟩] ∧ head.length ≤ lengthLimit ∧
      (3 ≤ lengthLimit ↔ tail.length ≤ 2 * (lengthLimit - head.length)) :=
  ⟨by decide, ofText_length (by decide)⟩

/-- A pattern that its jumps fill up to the limit is read with one more byte. -/
theorem ofText_beyond : ∃ bytes, ofText "[32767][32767][1]41" = .ok bytes ∧
    bytes.length = lengthLimit + 1 := by
  have wide {count : Nat} (fits : count + 32767 ≤ lengthLimit) :
      (Token.jump ['3', '2', '7', '6', '7']).Means count (List.replicate 32767 .wildcard) :=
    .jump (.once (readLength_eq_ok_iff.mp (by decide)).1) (by decide) fits
  have one {count : Nat} (fits : count + 1 ≤ lengthLimit) :
      (Token.jump ['1']).Means count (List.replicate 1 .wildcard) :=
    .jump (.once (readLength_eq_ok_iff.mp (by decide)).1) (by decide) fits
  have half : 0 + (List.replicate 32767 MaskedByte.wildcard).length + 32767 ≤ lengthLimit := by
    rw [List.length_replicate]
    decide
  have filled : 0 + (List.replicate 32767 MaskedByte.wildcard).length +
      (List.replicate 32767 MaskedByte.wildcard).length + 1 = lengthLimit := by
    rw [List.length_replicate]
    rfl
  have spells := Spells.cons (wide (by decide)) (.cons (wide half) (.cons (one filled.le) .nil))
  have isRead : ofText "[32767][32767][1]" = .ok _ := ofText_eq_ok_iff.mpr spells
  have isWritten : "[32767][32767][1]" ++ written [.single ⟨0x41, 0xff⟩] = "[32767][32767][1]41" := by
    decide
  have digitwise : ∀ byte ∈ [(⟨0x41, 0xff⟩ : MaskedByte)], byte.IsDigitwise :=
    List.forall_mem_singleton.mpr ⟨by decide, by decide⟩
  refine ⟨_, isWritten ▸ ofText_append isRead digitwise, ?_⟩
  rw [List.length_append, List.length_append, List.length_append, List.length_replicate]
  rfl

end ByteScan.HexPattern
