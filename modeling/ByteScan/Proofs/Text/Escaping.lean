import ByteScan.Proofs.Byte
import ByteScan.Text.Escaped
import Mathlib.Data.List.Basic

/-!
# Reading escaped bytes

The forms of bytes stand one after the other without separators. `unescape?` takes them off again, and the
main statement says that it reads exactly what is written for some bytes: `escape_unambiguous`.
-/

namespace ByteScan.Text

/-! ## The form of one byte -/

def plainByte? (c : Char) : Option UInt8 :=
  if 0x20 ≤ c.toNat ∧ c.toNat ≤ 0x7e ∧ c ≠ '\\' ∧ c ≠ '"' then some (UInt8.ofNat c.toNat) else none

def digitsByte? (high low : Char) : Option UInt8 :=
  match Byte.ofHexDigit? high, Byte.ofHexDigit? low with
  | some upper, some lower =>
    let byte := UInt8.ofNat (upper * 16 + lower)
    if Byte.hexDigits byte = [high, low] ∧ isPrintable byte = false then some byte else none
  | _, _ => none

def unescape? : List Char → Option (List UInt8)
  | [] => some []
  | '\\' :: '\\' :: rest => (unescape? rest).map (0x5c :: ·)
  | '\\' :: '"' :: rest => (unescape? rest).map (0x22 :: ·)
  | '\\' :: 'x' :: high :: low :: rest =>
    (digitsByte? high low).bind fun byte => (unescape? rest).map (byte :: ·)
  | c :: rest => (plainByte? c).bind fun byte => (unescape? rest).map (byte :: ·)

variable {byte : UInt8} {bytes : List UInt8} {c high low : Char} {rest text : List Char}

theorem isPrintable_iff : isPrintable byte = true ↔ 0x20 ≤ byte.toNat ∧ byte.toNat ≤ 0x7e := by
  rw [isPrintable, Bool.and_eq_true, decide_eq_true_eq, decide_eq_true_eq]
  exact Iff.rfl

theorem toNat_ofNat_byte (byte : UInt8) : (Char.ofNat byte.toNat).toNat = byte.toNat := by
  have small := byte.toNat_lt
  have isValid : byte.toNat.isValidChar := .inl (by omega)
  rw [Char.ofNat, dif_pos isValid]
  rfl

/-- A printable byte is written as its character, unless this would begin or look like an escape. -/
theorem escapeByte_eq_singleton_iff : escapeByte byte = [c] ↔
    c = Char.ofNat byte.toNat ∧ isPrintable byte = true ∧ byte ≠ 0x5c ∧ byte ≠ 0x22 := by
  rw [escapeByte]
  split
  · rename_i isBackslash
    simp [isBackslash]
  · rename_i notBackslash
    split
    · rename_i isQuote
      simp [isQuote]
    · rename_i notQuote
      split
      · rename_i printable
        simp [printable, notBackslash, notQuote, eq_comm]
      · rename_i unprintable
        simp [unprintable]

theorem escapeByte_eq_digits_iff : escapeByte byte = ['\\', 'x', high, low] ↔
    Byte.hexDigits byte = [high, low] ∧ isPrintable byte = false := by
  rw [escapeByte]
  split
  · rename_i isBackslash
    simp [isBackslash, isPrintable]
  · split
    · rename_i isQuote
      simp [isQuote, isPrintable]
    · split
      · rename_i printable
        simp [printable]
      · rename_i unprintable
        simp [unprintable]

theorem plainByte?_eq_some_iff : plainByte? c = some byte ↔ escapeByte byte = [c] := by
  rw [escapeByte_eq_singleton_iff, isPrintable_iff, plainByte?]
  constructor
  · intro read
    split at read
    · rename_i plain
      obtain ⟨above, below, notBackslash, notQuote⟩ := plain
      cases read
      have same : (UInt8.ofNat c.toNat).toNat = c.toNat := UInt8.toNat_ofNat_of_lt' (by
        rw [UInt8.size]
        omega)
      rw [same, Char.ofNat_toNat]
      refine ⟨rfl, ⟨above, below⟩, ?_, ?_⟩
      · intro isBackslash
        exact notBackslash (Char.toNat_inj.mp (same.symm.trans (congrArg UInt8.toNat isBackslash)))
      · intro isQuote
        exact notQuote (Char.toNat_inj.mp (same.symm.trans (congrArg UInt8.toNat isQuote)))
    · cases read
  · rintro ⟨rfl, ⟨above, below⟩, notBackslash, notQuote⟩
    rw [toNat_ofNat_byte, if_pos, UInt8.ofNat_toNat]
    refine ⟨above, below, ?_, ?_⟩
    · intro isBackslash
      exact notBackslash (UInt8.toNat_inj.mp
        ((toNat_ofNat_byte byte).symm.trans (congrArg Char.toNat isBackslash)))
    · intro isQuote
      exact notQuote (UInt8.toNat_inj.mp
        ((toNat_ofNat_byte byte).symm.trans (congrArg Char.toNat isQuote)))

theorem ofHexDigit?_of_hexDigits (written : Byte.hexDigits byte = [high, low]) :
    Byte.ofHexDigit? high = some (byte.toNat / 16) ∧ Byte.ofHexDigit? low = some (byte.toNat % 16) := by
  have small := byte.toNat_lt
  obtain ⟨rfl, rfl⟩ : Byte.hexDigit (byte.toNat / 16) = high ∧ Byte.hexDigit (byte.toNat % 16) = low := by
    simpa [Byte.hexDigits] using written
  exact ⟨Byte.ofHexDigit?_hexDigit (by omega), Byte.ofHexDigit?_hexDigit (by omega)⟩

theorem digitsByte?_eq_some_iff :
    digitsByte? high low = some byte ↔ escapeByte byte = ['\\', 'x', high, low] := by
  rw [escapeByte_eq_digits_iff, digitsByte?]
  constructor
  · intro read
    split at read
    · dsimp only at read
      split at read
      · rename_i canonical
        cases read
        exact canonical
      · cases read
    · cases read
  · rintro ⟨written, unprintable⟩
    obtain ⟨isHigh, isLow⟩ := ofHexDigit?_of_hexDigits written
    have halves : UInt8.ofNat (byte.toNat / 16 * 16 + byte.toNat % 16) = byte := by
      rw [Nat.div_add_mod', UInt8.ofNat_toNat]
    simp only [isHigh, isLow, halves]
    exact if_pos ⟨written, unprintable⟩

theorem escapeByte_cases (byte : UInt8) :
    byte = 0x5c ∨ byte = 0x22 ∨ (∃ c, escapeByte byte = [c]) ∨
      ∃ high low, escapeByte byte = ['\\', 'x', high, low] := by
  by_cases isBackslash : byte = 0x5c
  · exact .inl isBackslash
  · by_cases isQuote : byte = 0x22
    · exact .inr (.inl isQuote)
    · cases printable : isPrintable byte with
      | true =>
          exact .inr (.inr (.inl ⟨_,
            escapeByte_eq_singleton_iff.mpr ⟨rfl, printable, isBackslash, isQuote⟩⟩))
      | false => exact .inr (.inr (.inr ⟨_, _, escapeByte_eq_digits_iff.mpr ⟨rfl, printable⟩⟩))

/-! ## Many bytes -/

/-- A backslash does not stand for itself, so a form is never read as another one. -/
theorem unescape?_plain (notBackslash : c ≠ '\\') (rest : List Char) :
    unescape? (c :: rest) =
      (plainByte? c).bind fun byte => (unescape? rest).map (byte :: ·) := by
  rw [unescape?]
  all_goals
    intros
    contradiction

/-- Whatever follows the form of a byte, the byte is read and then the rest. -/
theorem unescape?_escapeByte (byte : UInt8) (rest : List Char) :
    unescape? (escapeByte byte ++ rest) = (unescape? rest).map (byte :: ·) := by
  obtain rfl | rfl | ⟨c, form⟩ | ⟨high, low, form⟩ := escapeByte_cases byte
  · rfl
  · rfl
  · have read := plainByte?_eq_some_iff.mpr form
    have notBackslash : c ≠ '\\' := by
      rintro rfl
      cases read
    rw [form, List.singleton_append, unescape?_plain notBackslash, read]
    rfl
  · rw [form]
    change (digitsByte? high low).bind _ = _
    rw [digitsByte?_eq_some_iff.mpr form]
    rfl

theorem unescape?_flatMap (bytes : List UInt8) :
    unescape? (bytes.flatMap escapeByte) = some bytes := by
  induction bytes with
  | nil => rfl
  | cons byte bytes ih => rw [List.flatMap_cons, unescape?_escapeByte, ih, Option.map_some]

/-- Only what is written for some bytes is read. -/
theorem eq_flatMap_of_unescape? (read : unescape? text = some bytes) :
    text = bytes.flatMap escapeByte := by
  fun_induction unescape? text generalizing bytes with
  | case1 =>
      cases read
      rfl
  | case2 rest ih =>
      obtain ⟨more, isMore, rfl⟩ := Option.map_eq_some_iff.mp read
      rw [ih isMore]
      rfl
  | case3 rest ih =>
      obtain ⟨more, isMore, rfl⟩ := Option.map_eq_some_iff.mp read
      rw [ih isMore]
      rfl
  | case4 high low rest ih =>
      obtain ⟨byte, isByte, readRest⟩ := Option.bind_eq_some_iff.mp read
      obtain ⟨more, isMore, rfl⟩ := Option.map_eq_some_iff.mp readRest
      rw [List.flatMap_cons, digitsByte?_eq_some_iff.mp isByte, ih isMore]
      rfl
  | case5 c rest _ _ _ ih =>
      obtain ⟨byte, isByte, readRest⟩ := Option.bind_eq_some_iff.mp read
      obtain ⟨more, isMore, rfl⟩ := Option.map_eq_some_iff.mp readRest
      rw [List.flatMap_cons, plainByte?_eq_some_iff.mp isByte, ih isMore]
      rfl

theorem unescape?_eq_some_iff : unescape? text = some bytes ↔ text = bytes.flatMap escapeByte := by
  constructor
  · exact eq_flatMap_of_unescape?
  · rintro rfl
    exact unescape?_flatMap bytes

theorem toList_escape (bytes : List UInt8) :
    (escape bytes).toList = bytes.flatMap escapeByte := String.toList_ofList

/-! ## Which characters are written -/

theorem isPrintable_of_mem_escapeByte (member : c ∈ escapeByte byte) :
    0x20 ≤ c.toNat ∧ c.toNat ≤ 0x7e := by
  obtain rfl | rfl | ⟨plain, form⟩ | ⟨high, low, form⟩ := escapeByte_cases byte
  · obtain rfl | rfl := List.mem_pair.mp member <;> decide
  · obtain rfl | rfl := List.mem_pair.mp member <;> decide
  · obtain ⟨isChar, printable, -⟩ := escapeByte_eq_singleton_iff.mp form
    rw [form, List.mem_singleton] at member
    rw [member, isChar, toNat_ofNat_byte]
    exact isPrintable_iff.mp printable
  · have isDigit {digit : Char} {nibble : Nat} (read : Byte.ofHexDigit? digit = some nibble) :
        0x20 ≤ digit.toNat ∧ digit.toNat ≤ 0x7e := by
      have bounds := Byte.toNat_of_ofHexDigit? read
      omega
    obtain ⟨isHigh, isLow⟩ := ofHexDigit?_of_hexDigits (escapeByte_eq_digits_iff.mp form).1
    rw [form] at member
    simp only [List.mem_cons, List.not_mem_nil, or_false] at member
    obtain rfl | rfl | rfl | rfl := member
    · decide
    · decide
    · exact isDigit isHigh
    · exact isDigit isLow

/-- Only the form of a quote holds one. -/
theorem quote_notMem_escapeByte (notQuote : byte ≠ 0x22) : '"' ∉ escapeByte byte := by
  intro member
  obtain rfl | isQuote | ⟨plain, form⟩ | ⟨high, low, form⟩ := escapeByte_cases byte
  · cases List.mem_pair.mp member <;> contradiction
  · exact notQuote isQuote
  · rw [form, List.mem_singleton] at member
    subst member
    cases plainByte?_eq_some_iff.mpr form
  · obtain ⟨isHigh, isLow⟩ := ofHexDigit?_of_hexDigits (escapeByte_eq_digits_iff.mp form).1
    rw [form] at member
    simp only [List.mem_cons, List.not_mem_nil, or_false] at member
    obtain isBackslash | isLetter | rfl | rfl := member
    · contradiction
    · contradiction
    · cases isHigh
    · cases isLow

theorem exists_append_of_notMem {first front back : List Char} (absent : c ∉ first)
    (split : first ++ rest = front ++ c :: back) :
    ∃ more, front = first ++ more ∧ rest = more ++ c :: back := by
  obtain ⟨more, isFront, isRest⟩ | ⟨more, isFirst, isBack⟩ := List.append_eq_append_iff.mp split
  · exact ⟨more, isFront, isRest⟩
  · cases more with
    | nil => exact ⟨[], by simpa using isFirst.symm, by simpa using isBack.symm⟩
    | cons head more =>
        obtain ⟨rfl, -⟩ := List.cons.inj isBack
        rw [isFirst] at absent
        exact absurd List.mem_append_cons_self absent

theorem exists_quote {front back : List Char}
    (split : bytes.flatMap escapeByte = front ++ '"' :: back) :
    ∃ before after, bytes = before ++ 0x22 :: after ∧
      front = before.flatMap escapeByte ++ ['\\'] ∧ back = after.flatMap escapeByte := by
  induction bytes generalizing front with
  | nil => simp at split
  | cons byte bytes ih =>
      rw [List.flatMap_cons] at split
      have later {more : List Char} (isFront : front = escapeByte byte ++ more)
          (isRest : bytes.flatMap escapeByte = more ++ '"' :: back) :
          ∃ before after, byte :: bytes = before ++ 0x22 :: after ∧
            front = before.flatMap escapeByte ++ ['\\'] ∧ back = after.flatMap escapeByte := by
        obtain ⟨before, after, isBytes, isMore, isBack⟩ := ih isRest
        refine ⟨byte :: before, after, by rw [isBytes, List.cons_append], ?_, isBack⟩
        rw [isFront, isMore, List.flatMap_cons, List.append_assoc]
      by_cases isQuote : byte = 0x22
      · subst isQuote
        -- The quote that was found is the one of this form, or it comes after the form.
        cases front with
        | nil => cases List.head_eq_of_cons_eq split
        | cons first front =>
            obtain ⟨rfl, tail⟩ := List.cons.inj split
            cases front with
            | nil => exact ⟨[], bytes, rfl, rfl, (List.cons.inj tail).2.symm⟩
            | cons second more =>
                obtain ⟨rfl, isRest⟩ := List.cons.inj tail
                exact later rfl isRest
      · obtain ⟨more, isFront, isRest⟩ :=
          exists_append_of_notMem (quote_notMem_escapeByte isQuote) split
        exact later isFront isRest

/-- What is written for some bytes is printable ASCII text that is read as these bytes and no others. It
is put together from what is written for the parts, and every quote in it is the second character of the
form of a quote, so that the backslash before it is the first. -/
theorem escape_unambiguous (bytes : List UInt8) :
    (∀ text : String, unescape? text.toList = some bytes ↔ text = escape bytes) ∧
    (∀ other, escape other = escape bytes ↔ other = bytes) ∧
    (∀ others, escape (bytes ++ others) = escape bytes ++ escape others) ∧
    (∀ c ∈ (escape bytes).toList, 0x20 ≤ c.toNat ∧ c.toNat ≤ 0x7e) ∧
    ∀ front back, (escape bytes).toList = front ++ '"' :: back →
      ∃ before after, bytes = before ++ 0x22 :: after ∧
        front = (escape before).toList ++ ['\\'] ∧ back = (escape after).toList := by
  have reads (text : String) : unescape? text.toList = some bytes ↔ text = escape bytes := by
    rw [unescape?_eq_some_iff, ← toList_escape, String.toList_inj]
  refine ⟨reads, ?_, ?_, ?_, ?_⟩
  · intro other
    rw [← reads, toList_escape, unescape?_flatMap]
    exact Option.some_inj
  · intro others
    rw [escape, List.flatMap_append, String.ofList_append]
    rfl
  · intro c member
    rw [toList_escape] at member
    obtain ⟨byte, -, written⟩ := List.mem_flatMap.mp member
    exact isPrintable_of_mem_escapeByte written
  · intro front back split
    simp only [toList_escape] at split ⊢
    exact exists_quote split

/-- A backslash, the letters of what could be an escape, a quote and a byte that is not printable. -/
theorem escape_unambiguous_lookalike :
    escape [0x5c, 0x78, 0x34, 0x31, 0x22, 0x0a] = "\\\\x41\\\"\\x0a" ∧
      unescape? "\\\\x41\\\"\\x0a".toList = some [0x5c, 0x78, 0x34, 0x31, 0x22, 0x0a] ∧
      0x20 ≤ 'x'.toNat ∧ 'x'.toNat ≤ 0x7e ∧
      ∃ before after, [0x5c, 0x78, 0x34, 0x31, 0x22, 0x0a] = before ++ 0x22 :: after ∧
        ['\\', '\\', 'x', '4', '1', '\\'] = (escape before).toList ++ ['\\'] ∧
        ['\\', 'x', '0', 'a'] = (escape after).toList := by
  obtain ⟨reads, -, -, printable, quoted⟩ :=
    escape_unambiguous [0x5c, 0x78, 0x34, 0x31, 0x22, 0x0a]
  have written : escape [0x5c, 0x78, 0x34, 0x31, 0x22, 0x0a] = "\\\\x41\\\"\\x0a" := by decide
  obtain ⟨above, below⟩ := printable 'x' (by decide)
  exact ⟨written, (reads _).mpr written.symm, above, below, quoted _ _ (by decide)⟩

end ByteScan.Text
