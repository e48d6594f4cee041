import ByteScan.Condition.Instruction

/-!
# Reading back condition code

An instruction that is written is read back from in front of whatever follows, if its operands are
in range: `takeInstruction_encode`.
-/

namespace ByteScan

/-- The operands of an instruction are in range for a set of strings and rules. -/
def Instruction.InRange (strings rules : Nat) : Instruction → Prop
  | .pushBytes value => value.length < UInt32.size
  | .found string | .count string | .foundAt string | .foundIn string => string.toNat < strings
  | .ofThem owner _ => owner.toNat < rules
  | .rule number | .verdict number => number.toNat < rules
  | _ => True

namespace CodePlace

theorem takeBytes_append (bytes rest : List UInt8) (position : Nat) :
    takeBytes bytes.length ⟨position, bytes ++ rest⟩ =
      .ok (bytes, ⟨position + bytes.length, rest⟩) := by
  have enough : hasAtLeast bytes.length (bytes ++ rest) = true := by
    rw [hasAtLeast_iff, List.length_append]
    exact Nat.le_add_right _ _
  rw [takeBytes, if_pos enough, List.take_left, List.drop_left]

theorem length_word (number : UInt32) : (Instruction.word number).length = 4 :=
  LittleEndian.length_encode _ _

theorem length_longWord (number : UInt64) : (Instruction.longWord number).length = 8 :=
  LittleEndian.length_encode _ _

theorem takeWord_append (number : UInt32) (rest : List UInt8) (position : Nat) :
    takeWord ⟨position, Instruction.word number ++ rest⟩ = .ok (number, ⟨position + 4, rest⟩) := by
  have taken := takeBytes_append (Instruction.word number) rest position
  rw [length_word] at taken
  have value : LittleEndian.value (Instruction.word number) = number.toNat :=
    LittleEndian.value_encode_of_lt number.toNat_lt
  rw [takeWord, taken]
  simp only [bind, Except.bind, value, UInt32.ofNat_toNat]

theorem takeLongWord_append (number : UInt64) (rest : List UInt8) (position : Nat) :
    takeLongWord ⟨position, Instruction.longWord number ++ rest⟩ =
      .ok (number, ⟨position + 8, rest⟩) := by
  have taken := takeBytes_append (Instruction.longWord number) rest position
  rw [length_longWord] at taken
  have value : LittleEndian.value (Instruction.longWord number) = number.toNat :=
    LittleEndian.value_encode_of_lt number.toNat_lt
  rw [takeLongWord, taken]
  simp only [bind, Except.bind, value, UInt64.ofNat_toNat]

theorem takeString_append {strings : Nat} {number : UInt32} (known : number.toNat < strings)
    (rest : List UInt8) (position : Nat) :
    takeString strings ⟨position, Instruction.word number ++ rest⟩ =
      .ok (number, ⟨position + 4, rest⟩) := by
  rw [takeString, takeWord_append]
  simp only [bind, Except.bind, if_pos known]

theorem takeRule_append {rules : Nat} {number : UInt32} (known : number.toNat < rules)
    (rest : List UInt8) (position : Nat) :
    takeRule rules ⟨position, Instruction.word number ++ rest⟩ =
      .ok (number, ⟨position + 4, rest⟩) := by
  rw [takeRule, takeWord_append]
  simp only [bind, Except.bind, if_pos known]

/-- What is written is read back. -/
theorem takeInstruction_encode {strings rules : Nat} {instruction : Instruction}
    (inRange : instruction.InRange strings rules) (rest : List UInt8) (position : Nat) :
    takeInstruction strings rules ⟨position, instruction.encode ++ rest⟩ =
      .ok (instruction, ⟨position + instruction.encode.length, rest⟩) := by
  cases instruction with
  | pushInteger value =>
      simp [takeInstruction, Instruction.encode, takeLongWord_append, bind, Except.bind,
        length_longWord]
  | pushFloat value =>
      simp [takeInstruction, Instruction.encode, takeLongWord_append, bind, Except.bind,
        length_longWord]
  | pushBoolean value =>
      cases value <;> rfl
  | pushBytes value =>
      have length : (UInt32.ofNat value.length).toNat = value.length :=
        UInt32.toNat_ofNat_of_lt' inRange
      simp [takeInstruction, Instruction.encode, takeWord_append, takeBytes_append, bind,
        Except.bind, length_word, length]
      omega
  | found string | count string | foundAt string | foundIn string =>
      have known : string.toNat < strings := inRange
      simp [takeInstruction, Instruction.encode, takeString_append known, bind, Except.bind,
        length_word]
  | ofThem owner minimum =>
      have known : owner.toNat < rules := inRange
      simp [takeInstruction, Instruction.encode, takeRule_append known, takeWord_append, bind,
        Except.bind, length_word]
  | rule number | verdict number =>
      have known : number.toNat < rules := inRange
      simp [takeInstruction, Instruction.encode, takeRule_append known, bind, Except.bind,
        length_word]
  | external index =>
      simp [takeInstruction, Instruction.encode, takeWord_append, bind, Except.bind, length_word]
  | compare comparison => cases comparison <;> rfl
  | _ => rfl

theorem encode_ne_nil (instruction : Instruction) : instruction.encode ≠ [] := by
  cases instruction <;> exact List.cons_ne_nil _ _

end CodePlace

end ByteScan
