import Mathlib.Data.List.Basic

/-!
# The bytes of texts

The bytes of a text are those of its characters one after another. A character below 128 is one byte, so
any bytes below 128 are the bytes of a text, however many they are.
-/

namespace ByteScan.Text

theorem toList_loop_eq (bytes : ByteArray) (left index : Nat) (taken : List UInt8)
    (whole : bytes.size = index + left) :
    ByteArray.toList.loop bytes index taken = taken.reverse ++ bytes.data.toList.drop index := by
  induction left generalizing index taken with
  | zero =>
      have short : bytes.data.toList.length ≤ index := by
        rw [Array.length_toList]
        exact Nat.le_of_eq whole
      rw [ByteArray.toList.loop, if_neg (by omega), List.drop_eq_nil_of_le short, List.append_nil]
  | succ left ih =>
      have within : index < bytes.data.toList.length := by
        rw [Array.length_toList]
        change index < bytes.size
        omega
      have next : bytes.get! index = bytes.data.toList[index] := by
        change bytes.data[index]! = bytes.data.toList[index]
        rw [getElem!_pos bytes.data index within]
        rfl
      rw [ByteArray.toList.loop, if_pos (by omega), ih (index + 1) _ (by omega), next,
        List.drop_eq_getElem_cons within, List.reverse_cons, List.append_assoc,
        List.singleton_append]

theorem toList_eq (bytes : ByteArray) : bytes.toList = bytes.data.toList :=
  toList_loop_eq bytes bytes.size 0 [] (Nat.zero_add _).symm

theorem toArray_toList (bytes : ByteArray) : (⟨bytes.toList.toArray⟩ : ByteArray) = bytes := by
  rw [toList_eq]

theorem toUTF8_ofList (characters : List Char) :
    (String.ofList characters).toUTF8.toList = characters.flatMap String.utf8EncodeChar := by
  rw [toList_eq]
  change (List.utf8Encode _).data.toList = _
  rw [List.utf8Encode, List.data_toByteArray]

theorem toUTF8_append (first second : String) :
    (first ++ second).toUTF8.toList = first.toUTF8.toList ++ second.toUTF8.toList := by
  rw [toList_eq, toList_eq, toList_eq]
  change (first ++ second).toByteArray.data.toList = _
  rw [String.toByteArray_append, ByteArray.data_append, Array.toList_append]
  rfl

def ofAscii (bytes : List UInt8) : String := .ofList (bytes.map fun byte => Char.ofNat byte.toNat)

theorem utf8EncodeChar_ascii {byte : UInt8} (ascii : byte < 0x80) :
    String.utf8EncodeChar (Char.ofNat byte.toNat) = [byte] := by
  have small : byte.toNat < 0x80 := ascii
  have code : (Char.ofNat byte.toNat).val.toNat = byte.toNat := by
    have valid : byte.toNat.isValidChar := .inl (by omega)
    rw [Char.ofNat, dif_pos valid]
    rfl
  simp only [String.utf8EncodeChar, code]
  rw [if_pos (Nat.le_of_lt_succ small), UInt8.ofNat_toNat]

theorem toUTF8_ofAscii {bytes : List UInt8} (ascii : ∀ byte ∈ bytes, byte < 0x80) :
    (ofAscii bytes).toUTF8.toList = bytes := by
  rw [ofAscii, toUTF8_ofList, List.flatMap_map]
  calc bytes.flatMap (fun byte => String.utf8EncodeChar (Char.ofNat byte.toNat))
      = bytes.flatMap (fun byte => [byte]) :=
        List.flatMap_congr fun byte member => utf8EncodeChar_ascii (ascii byte member)
    _ = bytes := List.flatMap_singleton' bytes

theorem toUTF8_replicate {byte : UInt8} (ascii : byte < 0x80) (count : Nat) :
    (ofAscii (List.replicate count byte)).toUTF8.toList = List.replicate count byte :=
  toUTF8_ofAscii fun _ member => (List.eq_of_mem_replicate member).symm ▸ ascii

end ByteScan.Text
