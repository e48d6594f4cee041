import ByteScan.Proofs.Byte
import ByteScan.Regex.ByteSet

/-!
# Members of sets of bytes

A byte is in a set if its bit is set in the word of its quarter. Of the sets that a character of an
expression stands for, `contains_singleton` and `contains_foldCase` say which bytes they hold.
-/

namespace ByteScan.Regex.ByteSet

theorem toNat_and_sixtyThree (byte : UInt8) : (byte &&& 63).toUInt64.toNat = byte.toNat % 64 := by
  rw [UInt8.toNat_toUInt64, UInt8.toNat_and]
  exact Nat.and_two_pow_sub_one_eq_mod byte.toNat 6

theorem contains_eq_testBit (set : ByteSet) (byte : UInt8) :
    set.contains byte = (set.word byte).toNat.testBit (byte.toNat % 64) := by
  unfold contains
  rw [Bool.eq_iff_iff, beq_iff_eq, ← UInt64.toNat_inj, UInt64.toNat_and, UInt64.toNat_shiftRight,
    toNat_and_sixtyThree, Nat.testBit, bne_iff_ne, Nat.and_comm]
  have small : byte.toNat % 64 % 64 = byte.toNat % 64 := Nat.mod_mod _ _
  rw [small]
  change 1 &&& _ = 1 ↔ _
  rw [Nat.one_and_eq_mod_two]
  omega

/-! ## One byte -/

theorem toNat_bit (byte : UInt8) :
    ((1 : UInt64) <<< (byte &&& 63).toUInt64).toNat = 1 <<< (byte.toNat % 64) := by
  have small : byte.toNat % 64 < 64 := Nat.mod_lt _ (by decide)
  have one : (1 : UInt64).toNat = 1 := rfl
  rw [UInt64.toNat_shiftLeft, toNat_and_sixtyThree, Nat.mod_mod, one, Nat.one_shiftLeft]
  exact Nat.mod_eq_of_lt (Nat.pow_lt_pow_right (by decide) small)

theorem word_singleton (member byte : UInt8) :
    (singleton member).word byte =
      if byte.toNat / 64 = member.toNat / 64 then 1 <<< (member &&& 63).toUInt64 else 0 := by
  have memberBound := member.toNat_lt
  have byteBound := byte.toNat_lt
  unfold singleton word
  simp only [UInt8.lt_iff_toNat_lt, UInt8.reduceToNat]
  by_cases memberFirst : member.toNat < 64 <;> by_cases memberSecond : member.toNat < 128 <;>
    by_cases memberThird : member.toNat < 192 <;> by_cases byteFirst : byte.toNat < 64 <;>
    by_cases byteSecond : byte.toNat < 128 <;> by_cases byteThird : byte.toNat < 192 <;>
    simp only [*, if_true, if_false] <;> split <;> first | rfl | omega

theorem contains_singleton (member byte : UInt8) :
    (singleton member).contains byte = true ↔ byte = member := by
  rw [contains_eq_testBit, word_singleton, ← UInt8.toNat_inj]
  split
  · rw [toNat_bit, Nat.one_shiftLeft, Nat.testBit_two_pow, decide_eq_true_eq]
    omega
  · rename_i different
    rw [UInt64.toNat_zero, Nat.zero_testBit]
    exact ⟨nofun, fun same => absurd (congrArg (· / 64) same) different⟩

/-! ## Both cases of letters -/

theorem testBit_capitals (index : Nat) :
    (0x7fffffe : Nat).testBit index = decide (1 ≤ index ∧ index ≤ 26) := by
  by_cases small : index < 27
  · have each : ∀ index < 27,
        (0x7fffffe : Nat).testBit index = decide (1 ≤ index ∧ index ≤ 26) := by decide
    exact each index small
  · have bound : (0x7fffffe : Nat) < 2 ^ index :=
      Nat.lt_of_lt_of_le (by decide) (Nat.pow_le_pow_right (by decide) (Nat.le_of_not_lt small))
    rw [Nat.testBit_lt_two_pow bound, eq_comm, decide_eq_false_iff_not]
    omega

theorem contains_of_second {byte : UInt8} (low : 64 ≤ byte.toNat) (high : byte.toNat < 128)
    (set : ByteSet) : set.contains byte = set.second.toNat.testBit (byte.toNat - 64) := by
  have index : byte.toNat % 64 = byte.toNat - 64 := by omega
  have chosen : set.word byte = set.second := by
    unfold word
    rw [if_neg (by rw [UInt8.lt_iff_toNat_lt]; exact Nat.not_lt.mpr low),
      if_pos (by rw [UInt8.lt_iff_toNat_lt]; exact high)]
  rw [contains_eq_testBit, chosen, index]

theorem testBit_foldCase (set : ByteSet) {index : Nat} (small : index < 64) :
    set.foldCase.second.toNat.testBit index =
      (set.second.toNat.testBit index ||
        (decide (33 ≤ index ∧ index ≤ 58) && set.second.toNat.testBit (index - 32)) ||
        (decide (1 ≤ index ∧ index ≤ 26) && set.second.toNat.testBit (32 + index))) := by
  have capitals : (0x7fffffe : UInt64).toNat = 0x7fffffe := rfl
  have shift : (32 : UInt64).toNat % 64 = 32 := rfl
  unfold foldCase
  rw [UInt64.toNat_or, UInt64.toNat_or, UInt64.toNat_shiftLeft, UInt64.toNat_and, UInt64.toNat_and,
    UInt64.toNat_shiftRight, capitals, shift, Nat.testBit_or, Nat.testBit_or, Nat.testBit_and,
    Nat.testBit_mod_two_pow, Nat.testBit_shiftLeft, Nat.testBit_and, Nat.testBit_shiftRight,
    testBit_capitals, testBit_capitals]
  have raised : (decide (index ≥ 32) && decide (1 ≤ index - 32 ∧ index - 32 ≤ 26)) =
      decide (33 ≤ index ∧ index ≤ 58) := by
    rw [← Bool.decide_and, decide_eq_decide]
    omega
  rw [decide_eq_true small, Bool.true_and, Bool.and_comm (set.second.toNat.testBit (index - 32)),
    ← Bool.and_assoc, raised, Bool.and_comm (set.second.toNat.testBit (32 + index))]

theorem contains_foldCase_of_not_second {byte : UInt8}
    (outside : ¬(64 ≤ byte.toNat ∧ byte.toNat < 128)) (set : ByteSet) :
    set.foldCase.contains byte = set.contains byte := by
  have chosen : set.foldCase.word byte = set.word byte := by
    unfold word
    simp only [UInt8.lt_iff_toNat_lt, UInt8.reduceToNat]
    by_cases first : byte.toNat < 64
    · rw [if_pos first, if_pos first]
      rfl
    · have second : ¬byte.toNat < 128 := fun high => outside ⟨Nat.le_of_not_lt first, high⟩
      rw [if_neg first, if_neg first, if_neg second, if_neg second]
      rfl
  rw [contains_eq_testBit, contains_eq_testBit, chosen]

/-- A set with both cases of its letters holds the bytes that equal one of its members up to
case. -/
theorem contains_foldCase (set : ByteSet) (byte : UInt8) :
    set.foldCase.contains byte = true ↔
      ∃ member, set.contains member = true ∧ Byte.equalIgnoringCase byte member = true := by
  simp only [Byte.equalIgnoringCase_iff]
  by_cases letters : 64 ≤ byte.toNat ∧ byte.toNat < 128
  · obtain ⟨low, high⟩ := letters
    rw [contains_of_second low high, testBit_foldCase set (by omega)]
    simp only [Bool.or_eq_true, Bool.and_eq_true, decide_eq_true_eq]
    constructor
    · rintro ((held | ⟨small, held⟩) | ⟨capital, held⟩)
      · rw [← contains_of_second low high] at held
        exact ⟨byte, held, Or.inl rfl⟩
      · have value : (UInt8.ofNat (byte.toNat - 32)).toNat = byte.toNat - 32 := by
          rw [UInt8.toNat_ofNat', Nat.mod_eq_of_lt (by omega)]
        refine ⟨UInt8.ofNat (byte.toNat - 32), ?_, by omega⟩
        rw [contains_of_second (by omega) (by omega), value, Nat.sub_right_comm]
        exact held
      · have value : (UInt8.ofNat (byte.toNat + 32)).toNat = byte.toNat + 32 := by
          rw [UInt8.toNat_ofNat', Nat.mod_eq_of_lt (by omega)]
        have index : byte.toNat + 32 - 64 = 32 + (byte.toNat - 64) := by omega
        refine ⟨UInt8.ofNat (byte.toNat + 32), ?_, by omega⟩
        rw [contains_of_second (by omega) (by omega), value, index]
        exact held
    · rintro ⟨member, held, same⟩
      rw [contains_of_second (by omega) (by omega)] at held
      rcases same with equal | ⟨least, most, raised⟩ | ⟨least, most, lowered⟩
      · rw [← equal] at held
        exact Or.inl (Or.inl held)
      · have index : member.toNat - 64 = 32 + (byte.toNat - 64) := by omega
        rw [index] at held
        exact Or.inr ⟨by omega, held⟩
      · have index : member.toNat - 64 = byte.toNat - 64 - 32 := by omega
        rw [index] at held
        exact Or.inl (Or.inr ⟨by omega, held⟩)
  · rw [contains_foldCase_of_not_second letters]
    constructor
    · intro held
      exact ⟨byte, held, Or.inl rfl⟩
    · rintro ⟨member, held, same⟩
      have equal : byte = member := UInt8.toNat_inj.mp (by omega)
      rw [equal]
      exact held

end ByteScan.Regex.ByteSet
