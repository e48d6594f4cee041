/-!
# Little-endian words

Every number in a compiled rule file and in condition code is stored with its least significant
byte first and a fixed width. `encode` writes the low bytes of a number, `value` reads a number
back, and the two laws `value_encode` and `encode_value` say that nothing is lost in either
direction.
-/

namespace ByteScan.LittleEndian

/-- The `width` low bytes of a number, least significant byte first. -/
def encode : Nat → Nat → List UInt8
  | 0, _ => []
  | width + 1, number => UInt8.ofNat number :: encode width (number / 256)

def value : List UInt8 → Nat
  | [] => 0
  | byte :: bytes => byte.toNat + 256 * value bytes

@[simp] theorem length_encode (width number : Nat) : (encode width number).length = width := by
  induction width generalizing number with
  | zero => rfl
  | succ width ih => simp [encode, ih]

theorem value_lt (bytes : List UInt8) : value bytes < Nat.pow 256 bytes.length := by
  induction bytes with
  | nil => decide
  | cons byte bytes ih =>
    have hbyte : byte.toNat < 256 := byte.toNat_lt
    have hpow : Nat.pow 256 (bytes.length + 1) = Nat.pow 256 bytes.length * 256 := rfl
    rw [value, List.length_cons, hpow]
    omega

/-- Reading what was written gives the number back, up to the width written. -/
theorem value_encode (width number : Nat) :
    value (encode width number) = number % Nat.pow 256 width := by
  induction width generalizing number with
  | zero => simp [encode, value, Nat.mod_one]
  | succ width ih =>
    have hpow : Nat.pow 256 (width + 1) = 256 * Nat.pow 256 width := Nat.mul_comm _ _
    have hbyte : (UInt8.ofNat number).toNat = number % 256 := UInt8.toNat_ofNat'
    rw [encode, value, ih, hpow, Nat.mod_mul, hbyte]

theorem value_encode_of_lt {width number : Nat} (h : number < Nat.pow 256 width) :
    value (encode width number) = number := by
  rw [value_encode, Nat.mod_eq_of_lt h]

/-- Writing what was read gives the same bytes. -/
theorem encode_value (bytes : List UInt8) : encode bytes.length (value bytes) = bytes := by
  induction bytes with
  | nil => rfl
  | cons byte bytes ih =>
    have hbyte : byte.toNat < 256 := byte.toNat_lt
    have hlow : UInt8.ofNat (byte.toNat + 256 * value bytes) = byte := by
      apply UInt8.toNat_inj.mp
      have hnat : (UInt8.ofNat (byte.toNat + 256 * value bytes)).toNat =
          (byte.toNat + 256 * value bytes) % 256 := UInt8.toNat_ofNat'
      rw [hnat]
      omega
    have hhigh : (byte.toNat + 256 * value bytes) / 256 = value bytes := by omega
    rw [List.length_cons, value, encode, hlow, hhigh, ih]

end ByteScan.LittleEndian
