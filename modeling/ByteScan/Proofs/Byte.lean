import ByteScan.Byte

/-!
# Case and digits

Two bytes are equal up to case if they are the same or if one is a capital and the other stands
thirty-two places after it. A hexadecimal digit is read as the number that it was written for.
-/

namespace ByteScan.Byte

theorem equalIgnoringCase_iff (first second : UInt8) :
    equalIgnoringCase first second = true ↔ first.toNat = second.toNat ∨
      (65 ≤ first.toNat ∧ first.toNat ≤ 90 ∧ second.toNat = first.toNat + 32) ∨
      (65 ≤ second.toNat ∧ second.toNat ≤ 90 ∧ first.toNat = second.toNat + 32) := by
  have firstBound := first.toNat_lt
  have secondBound := second.toNat_lt
  simp only [equalIgnoringCase, toLower, isUpper, beq_iff_eq, Bool.and_eq_true,
    decide_eq_true_eq, UInt8.le_iff_toNat_le, UInt8.reduceToNat]
  split <;> split <;> simp only [← UInt8.toNat_inj, UInt8.toNat_add, UInt8.reduceToNat] <;> omega

theorem toNat_of_ofHexDigit? {digit : Char} {nibble : Nat}
    (read : ofHexDigit? digit = some nibble) : 0x30 ≤ digit.toNat ∧ digit.toNat ≤ 0x66 := by
  have known : '0' ≤ digit ∧ digit ≤ '9' ∨ 'a' ≤ digit ∧ digit ≤ 'f' ∨ 'A' ≤ digit ∧ digit ≤ 'F' := by
    refine Decidable.byContradiction fun unknown => ?_
    rw [not_or, not_or] at unknown
    rw [ofHexDigit?, if_neg unknown.1, if_neg unknown.2.1, if_neg unknown.2.2] at read
    cases read
  have bounds : 0x30 ≤ digit.toNat ∧ digit.toNat ≤ 0x39 ∨ 0x61 ≤ digit.toNat ∧ digit.toNat ≤ 0x66 ∨
      0x41 ≤ digit.toNat ∧ digit.toNat ≤ 0x46 := known
  omega

theorem ofHexDigit?_hexDigit {nibble : Nat} (small : nibble < 16) :
    ofHexDigit? (hexDigit nibble) = some nibble := by
  have all : ∀ digit : Fin 16, ofHexDigit? (hexDigit digit.val) = some digit.val := by decide
  exact all ⟨nibble, small⟩

end ByteScan.Byte
