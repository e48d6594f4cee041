import ByteScan.Pattern.Hex
import ByteScan.Proofs.Success
import ByteScan.Proofs.Text.Numerals
import Mathlib.Data.List.TakeDrop
import Mathlib.Data.List.TakeWhile

/-!
# Spelling of hex patterns

A hex pattern is spelled by pairs and jumps. `Spells` says which text spells which pattern, and that is
what is read: `ofText_exact`. A pattern that is written in any of its spellings, with blanks anywhere, is
read again.
-/

namespace ByteScan

/-- Each of the two digits of a byte is given or free, and the bits of a free one are zero. -/
structure MaskedByte.IsDigitwise (byte : MaskedByte) : Prop where
  masked : byte.mask ∈ [0x00, 0x0f, 0xf0, 0xff]
  zeroed : byte.value &&& byte.mask = byte.value

namespace HexPattern

/-- A digit of half a byte has a value and a mask. -/
inductive IsNibble : Char → Nat → Nat → Prop
  | free : IsNibble '?' 0 0
  | given (read : Byte.ofHexDigit? digit = some value) : IsNibble digit value 0xf

/-- What stands between the brackets of a jump names its length, once or twice. -/
inductive IsExtent : List Char → Nat → Prop
  | once (isLength : Text.IsUnsigned 10 text length) : IsExtent text length
  | twice (isLow : Text.IsUnsigned 10 low length) (isHigh : Text.IsUnsigned 10 high length) :
      IsExtent (low ++ '-' :: high) length

inductive Token where
  | pair (high low : Char)
  | jump (extent : List Char)

namespace Token

def text : Token → List Char
  | .pair high low => [high, low]
  | .jump extent => '[' :: (extent ++ [']'])

/-- The bytes that a token stands for after `count` others. -/
inductive Means (count : Nat) : Token → List MaskedByte → Prop
  | pair (isHigh : IsNibble high highValue highMask) (isLow : IsNibble low lowValue lowMask) :
      Means count (.pair high low)
        [⟨UInt8.ofNat (highValue * 16 + lowValue), UInt8.ofNat (highMask * 16 + lowMask)⟩]
  | jump (isExtent : IsExtent extent length) (short : length ≤ jumpLimit)
      (fits : count + length ≤ lengthLimit) :
      Means count (.jump extent) (List.replicate length .wildcard)

end Token

/-- A text spells some bytes after `count` others. -/
inductive Spells : Nat → List Char → List MaskedByte → Prop
  | nil : Spells count [] []
  | cons {token : Token} (means : token.Means count first)
      (spells : Spells (count + first.length) rest bytes) :
      Spells count (token.text ++ rest) (first ++ bytes)

def solid (source : String) : List Char := source.toList.filter fun c => !Text.isBlank c

def writeNibble (value mask : Nat) : Char := if mask = 0 then '?' else Byte.hexDigit value

/-- What is written of a pattern at a time: one byte, or free bytes that are jumped over. -/
inductive Piece where
  | single (byte : MaskedByte)
  | gap (length : Nat)
  /-- The same as a gap, with its length written twice. -/
  | range (length : Nat)

def Piece.bytes : Piece → List MaskedByte
  | .single byte => [byte]
  | .gap length | .range length => List.replicate length .wildcard

def Piece.token : Piece → Token
  | .single ⟨value, mask⟩ =>
    .pair (writeNibble (value.toNat / 16) (mask.toNat / 16))
      (writeNibble (value.toNat % 16) (mask.toNat % 16))
  | .gap length => .jump (Text.digits 10 length)
  | .range length => .jump (Text.digits 10 length ++ '-' :: Text.digits 10 length)

def written (pieces : List Piece) : String :=
  String.ofList (pieces.flatMap fun piece => piece.token.text)

variable {read bytes first : List MaskedByte} {count length : Nat} {text inner rest : List Char}
  {token : Token}

/-! ## Pairs -/

theorem readNibble_eq_ok_iff {digit : Char} {value mask : Nat} :
    readNibble digit = .ok (value, mask) ↔ IsNibble digit value mask := by
  rw [readNibble]
  constructor
  · intro read
    split at read
    · rename_i isFree
      cases read
      exact isFree ▸ .free
    · split at read
      · rename_i isDigit
        cases read
        exact .given isDigit
      · cases read
  · rintro (_ | isDigit)
    · rfl
    · rw [if_neg, isDigit]
      rintro rfl
      cases isDigit

theorem readPair_eq_ok_iff {high low : Char} {byte : MaskedByte} :
    readPair high low = .ok byte ↔ ∀ count, (Token.pair high low).Means count [byte] := by
  rw [readPair]
  constructor
  · intro read count
    cases isHigh : readNibble high with
    | error fault =>
        rw [isHigh] at read
        cases read
    | ok upper =>
        cases isLow : readNibble low with
        | error fault =>
            rw [isHigh, isLow] at read
            cases read
        | ok lower =>
            rw [isHigh, isLow] at read
            cases read
            exact .pair (readNibble_eq_ok_iff.mp isHigh) (readNibble_eq_ok_iff.mp isLow)
  · intro means
    cases means 0 with
    | pair isHigh isLow =>
        rw [readNibble_eq_ok_iff.mpr isHigh, readNibble_eq_ok_iff.mpr isLow]
        rfl

/-- A pair does not begin like a jump or like alternatives. -/
theorem IsNibble.isPlain {digit : Char} {value mask : Nat} (isNibble : IsNibble digit value mask) :
    digit ≠ '[' ∧ ¬(digit = '(' ∨ digit = '|' ∨ digit = ')') := by
  cases isNibble with
  | free => decide
  | given read =>
      refine ⟨?_, ?_⟩
      · rintro rfl
        cases read
      · rintro (rfl | rfl | rfl) <;> cases read

/-! ## Jumps -/

theorem ne_hyphen (plain : '-' ∉ text) : ∀ c ∈ text, decide (c ≠ '-') = true := by
  intro c listed
  exact decide_eq_true fun same => plain (same ▸ listed)

theorem span_hyphen_of_notMem (plain : '-' ∉ text) : text.span (· ≠ '-') = (text, []) := by
  rw [List.span_eq_takeWhile_dropWhile, List.takeWhile_eq_self_iff.mpr (ne_hyphen plain),
    List.dropWhile_eq_nil_iff.mpr (ne_hyphen plain)]

theorem span_hyphen {low high : List Char} (plain : '-' ∉ low) :
    (low ++ '-' :: high).span (· ≠ '-') = (low, '-' :: high) := by
  rw [List.span_eq_takeWhile_dropWhile, List.takeWhile_append_of_pos (ne_hyphen plain),
    List.dropWhile_append_of_pos (ne_hyphen plain)]
  simp

theorem readLength_eq_ok_iff :
    Text.readUnsigned 10 (UInt64.size - 1) (String.ofList text) = .ok length ↔
      Text.IsUnsigned 10 text length ∧ length ≤ UInt64.size - 1 := by
  rw [Text.readUnsigned_eq_ok_iff (by decide), String.toList_ofList]

theorem readBounds_eq_ok_iff :
    readBounds text = .ok (length, length) ↔ IsExtent text length ∧ length ≤ UInt64.size - 1 := by
  constructor
  · intro bounds
    by_cases hyphen : '-' ∈ text
    · obtain ⟨low, high, rfl, plain⟩ := List.eq_append_cons_of_mem hyphen
      rw [readBounds, span_hyphen plain] at bounds
      obtain ⟨lower, isLow, bounds⟩ := bind_eq_ok bounds
      obtain ⟨upper, isHigh, same⟩ := bind_eq_ok bounds
      cases same
      obtain ⟨isLow, small⟩ := readLength_eq_ok_iff.mp isLow
      exact ⟨.twice isLow (readLength_eq_ok_iff.mp isHigh).1, small⟩
    · rw [readBounds, span_hyphen_of_notMem hyphen] at bounds
      obtain ⟨bound, isBound, same⟩ := bind_eq_ok bounds
      cases same
      obtain ⟨isLength, small⟩ := readLength_eq_ok_iff.mp isBound
      exact ⟨.once isLength, small⟩
  · rintro ⟨isExtent, small⟩
    cases isExtent with
    | once isLength =>
        have plain := isLength.notMem (by decide) (Text.digitValue?_minus 10)
        rw [readBounds, span_hyphen_of_notMem plain]
        dsimp only
        rw [readLength_eq_ok_iff.mpr ⟨isLength, small⟩]
        rfl
    | twice isLow isHigh =>
        have plain := isLow.notMem (by decide) (Text.digitValue?_minus 10)
        rw [readBounds, span_hyphen plain]
        dsimp only
        rw [readLength_eq_ok_iff.mpr ⟨isLow, small⟩, readLength_eq_ok_iff.mpr ⟨isHigh, small⟩]
        rfl

theorem readJump_eq_ok_iff : readJump text count = .ok length ↔
    IsExtent text length ∧ length ≤ jumpLimit ∧ count + length ≤ lengthLimit := by
  rw [readJump]
  constructor
  · intro jump
    split at jump
    · cases jump
    · rename_i low high bounds
      split at jump
      · cases jump
      · rename_i same
        split at jump
        · cases jump
        · split at jump
          · cases jump
          · rename_i short fits
            cases jump
            rw [← not_ne_iff.mp same] at bounds
            exact ⟨(readBounds_eq_ok_iff.mp bounds).1, Nat.not_lt.mp short, Nat.not_lt.mp fits⟩
  · rintro ⟨isExtent, short, fits⟩
    have small : length ≤ UInt64.size - 1 := short.trans (by decide)
    rw [readBounds_eq_ok_iff.mpr ⟨isExtent, small⟩]
    simp [Nat.not_lt.mpr short, Nat.not_lt.mpr fits]

/-- The text of a jump has no bracket in it that would close it. -/
theorem IsExtent.isOpen (isExtent : IsExtent text length) : ']' ∉ text := by
  cases isExtent with
  | once isLength => exact isLength.notMem (by decide) rfl
  | twice isLow isHigh =>
      rw [List.mem_append, List.mem_cons, not_or, not_or]
      exact ⟨isLow.notMem (by decide) rfl, by decide, isHigh.notMem (by decide) rfl⟩

theorem readJumpTail_append (isOpen : ']' ∉ inner) :
    readJumpTail read count text (inner ++ ']' :: rest) =
      readJumpTail read count (inner.reverse ++ text) (']' :: rest) := by
  induction inner generalizing text with
  | nil => rfl
  | cons c inner ih =>
      rw [List.mem_cons, not_or] at isOpen
      rw [List.cons_append, readJumpTail, if_neg (Ne.symm isOpen.1), ih isOpen.2,
        List.reverse_cons, List.append_assoc, List.singleton_append]

theorem readJumpTail_of_notMem (isOpen : ']' ∉ rest) :
    readJumpTail read count text rest = .error .unterminatedJump := by
  induction rest generalizing text with
  | nil => rw [readJumpTail]
  | cons c rest ih =>
      rw [List.mem_cons, not_or] at isOpen
      rw [readJumpTail, if_neg (Ne.symm isOpen.1), ih isOpen.2]

/-! ## Reading all tokens -/

theorem readTokens_bracket :
    readTokens read count ('[' :: rest) = readJumpTail read count [] rest := by
  cases rest with
  | nil => rw [readTokens, if_pos rfl]
  | cons c rest => rw [readTokens, if_pos rfl]

/-- Reading goes on after a token with the bytes that it stands for. -/
theorem Token.Means.readTokens (means : token.Means count first) :
    readTokens read count (token.text ++ rest) =
      readTokens (first.reverse ++ read) (count + first.length) rest := by
  cases means with
  | pair isHigh isLow =>
      have pair := readPair_eq_ok_iff.mpr fun count => .pair isHigh isLow
      rw [Token.text, List.cons_append, List.cons_append, List.nil_append, HexPattern.readTokens,
        if_neg isHigh.isPlain.1, if_neg isHigh.isPlain.2, pair]
      rfl
  | jump isExtent short fits =>
      rw [Token.text, List.cons_append, List.append_assoc, List.singleton_append,
        readTokens_bracket, readJumpTail_append isExtent.isOpen, readJumpTail, if_pos rfl,
        List.append_nil, List.reverse_reverse, readJump_eq_ok_iff.mpr ⟨isExtent, short, fits⟩,
        List.reverse_replicate, List.length_replicate]

theorem exists_token_of_readTokens {c : Char}
    (isRead : readTokens read count (c :: text) = .ok bytes) :
    ∃ (token : Token) (first : List MaskedByte) (rest : List Char),
      c :: text = token.text ++ rest ∧ token.Means count first := by
  by_cases isJump : c = '['
  · rw [isJump, readTokens_bracket] at isRead
    by_cases closed : ']' ∈ text
    · obtain ⟨inner, rest, rfl, isOpen⟩ := List.eq_append_cons_of_mem closed
      rw [readJumpTail_append isOpen, readJumpTail, if_pos rfl, List.append_nil,
        List.reverse_reverse] at isRead
      split at isRead
      · rename_i length jump
        obtain ⟨isExtent, short, fits⟩ := readJump_eq_ok_iff.mp jump
        refine ⟨.jump inner, _, rest, ?_, .jump isExtent short fits⟩
        rw [isJump, Token.text, List.cons_append, List.append_assoc, List.singleton_append]
      · cases isRead
    · rw [readJumpTail_of_notMem closed] at isRead
      cases isRead
  · cases text with
    | nil =>
        rw [readTokens, if_neg isJump] at isRead
        split at isRead <;> cases isRead
    | cons low rest =>
        rw [readTokens, if_neg isJump] at isRead
        split at isRead
        · cases isRead
        · split at isRead
          · rename_i byte pair
            exact ⟨.pair c low, [byte], rest, rfl, readPair_eq_ok_iff.mp pair count⟩
          · cases isRead

theorem Token.text_ne_nil (token : Token) : token.text ≠ [] := by
  cases token with
  | pair high low => exact List.cons_ne_nil _ _
  | jump extent => exact List.cons_ne_nil _ _

theorem readTokens_eq_ok_iff : readTokens read count text = .ok bytes ↔
    ∃ tail, Spells count text tail ∧ bytes = read.reverse ++ tail := by
  constructor
  · intro isRead
    induction isSize : text.length using Nat.strongRecOn generalizing read count text with
    | ind size ih =>
      cases text with
      | nil =>
          rw [readTokens] at isRead
          cases isRead
          exact ⟨[], .nil, (List.append_nil _).symm⟩
      | cons c text =>
          obtain ⟨token, first, rest, split, means⟩ := exists_token_of_readTokens isRead
          rw [split, means.readTokens] at isRead
          have shorter : rest.length < size := by
            rw [← isSize, split, List.length_append]
            exact Nat.lt_add_of_pos_left (List.length_pos_iff.mpr token.text_ne_nil)
          obtain ⟨tail, spells, rfl⟩ := ih _ shorter isRead rfl
          refine ⟨first ++ tail, split ▸ .cons means spells, ?_⟩
          rw [List.reverse_append, List.reverse_reverse, List.append_assoc]
  · rintro ⟨tail, spells, rfl⟩
    induction spells generalizing read with
    | nil => rw [readTokens, List.append_nil]
    | cons means spells ih =>
        rw [means.readTokens, ih, List.reverse_append, List.reverse_reverse, List.append_assoc]

/-- A source is read as the bytes that it spells, and not read if it spells none. -/
theorem ofText_eq_ok_iff {source : String} :
    ofText source = .ok bytes ↔ Spells 0 (solid source) bytes := by
  rw [ofText, readTokens_eq_ok_iff]
  constructor
  · rintro ⟨tail, spells, rfl⟩
    exact spells
  · intro spells
    exact ⟨bytes, spells, rfl⟩

/-! ## Digits of a byte -/

def IsHalf (value mask : Nat) : Prop := value = 0 ∧ mask = 0 ∨ value < 16 ∧ mask = 0xf

instance : Decidable (IsHalf value mask) := inferInstanceAs (Decidable (_ ∨ _))

theorem IsNibble.isHalf {digit : Char} {value mask : Nat} (isNibble : IsNibble digit value mask) :
    IsHalf value mask := by
  cases isNibble with
  | free => exact .inl ⟨rfl, rfl⟩
  | given read => exact .inr ⟨Byte.ofHexDigit?_lt read, rfl⟩

theorem IsHalf.isNibble {value mask : Nat} (isHalf : IsHalf value mask) :
    IsNibble (writeNibble value mask) value mask := by
  obtain ⟨rfl, rfl⟩ | ⟨small, rfl⟩ := isHalf
  · exact .free
  · exact .given (Byte.ofHexDigit?_hexDigit small)

theorem and_eq_self_iff : ∀ mask ∈ [0x00, 0x0f, 0xf0, 0xff], ∀ value : Fin 256,
    value.val &&& mask = value.val ↔
      IsHalf (value.val / 16) (mask / 16) ∧ IsHalf (value.val % 16) (mask % 16) := by
  decide +kernel

theorem isDigitwise_iff {byte : MaskedByte} : byte.IsDigitwise ↔
    IsHalf (byte.value.toNat / 16) (byte.mask.toNat / 16) ∧
      IsHalf (byte.value.toNat % 16) (byte.mask.toNat % 16) := by
  have masked : byte.mask ∈ [0x00, 0x0f, 0xf0, 0xff] ↔
      byte.mask.toNat ∈ [0x00, 0x0f, 0xf0, 0xff] := by
    simp only [List.mem_cons, List.not_mem_nil, ← UInt8.toNat_inj]
    rfl
  have zeroed : byte.value &&& byte.mask = byte.value ↔
      byte.value.toNat &&& byte.mask.toNat = byte.value.toNat := by
    rw [← UInt8.toNat_inj, UInt8.toNat_and]
  constructor
  · rintro ⟨isMask, isValue⟩
    exact (and_eq_self_iff _ (masked.mp isMask) ⟨_, byte.value.toNat_lt⟩).mp (zeroed.mp isValue)
  · intro halves
    have isMask : byte.mask.toNat ∈ [0x00, 0x0f, 0xf0, 0xff] := by
      obtain ⟨high, low⟩ := halves
      simp only [List.mem_cons, List.not_mem_nil]
      simp only [IsHalf] at high low
      omega
    refine ⟨masked.mpr isMask, zeroed.mpr ?_⟩
    exact (and_eq_self_iff _ isMask ⟨_, byte.value.toNat_lt⟩).mpr halves

theorem IsHalf.bounds {value mask : Nat} (isHalf : IsHalf value mask) : value < 16 ∧ mask < 16 := by
  obtain ⟨rfl, rfl⟩ | ⟨small, rfl⟩ := isHalf
  · decide
  · exact ⟨small, by decide⟩

theorem halves_ofNat {high low : Nat} (highSmall : high < 16) (lowSmall : low < 16) :
    (UInt8.ofNat (high * 16 + low)).toNat / 16 = high ∧
      (UInt8.ofNat (high * 16 + low)).toNat % 16 = low := by
  rw [UInt8.toNat_ofNat', Nat.mod_eq_of_lt (by omega)]
  omega

theorem Token.Means.isDigitwise (means : token.Means count first) :
    ∀ byte ∈ first, byte.IsDigitwise := by
  cases means with
  | pair isHigh isLow =>
      rintro byte (_ | ⟨_, ⟨⟩⟩)
      have high := isHigh.isHalf
      have low := isLow.isHalf
      obtain ⟨highValue, lowValue⟩ := halves_ofNat high.bounds.1 low.bounds.1
      obtain ⟨highMask, lowMask⟩ := halves_ofNat high.bounds.2 low.bounds.2
      rw [isDigitwise_iff]
      dsimp only
      rw [highValue, lowValue, highMask, lowMask]
      exact ⟨high, low⟩
  | jump isExtent short fits =>
      intro byte listed
      rw [List.eq_of_mem_replicate listed]
      exact ⟨by decide, by decide⟩

theorem Spells.isDigitwise (spells : Spells count text bytes) :
    ∀ byte ∈ bytes, byte.IsDigitwise := by
  induction spells with
  | nil => exact fun _ => nofun
  | cons means spells ih => exact List.forall_mem_append.mpr ⟨means.isDigitwise, ih⟩

/-! ## Blanks -/

theorem IsNibble.notBlank {digit : Char} {value mask : Nat}
    (isNibble : IsNibble digit value mask) : Text.isBlank digit = false := by
  cases isNibble with
  | free => rfl
  | given read => exact Text.notBlank_of_ofHexDigit? read

theorem Token.Means.notBlank (means : token.Means count first) :
    ∀ c ∈ token.text, Text.isBlank c = false := by
  cases means with
  | pair isHigh isLow =>
      rintro c (_ | ⟨_, _ | ⟨_, ⟨⟩⟩⟩)
      · exact isHigh.notBlank
      · exact isLow.notBlank
  | jump isExtent short fits =>
      rw [Token.text, List.forall_mem_cons, List.forall_mem_append, List.forall_mem_singleton]
      refine ⟨rfl, ?_, rfl⟩
      cases isExtent with
      | once isLength => exact isLength.notBlank
      | twice isLow isHigh =>
          rw [List.forall_mem_append, List.forall_mem_cons]
          exact ⟨isLow.notBlank, rfl, isHigh.notBlank⟩

theorem Spells.notBlank (spells : Spells count text bytes) :
    ∀ c ∈ text, Text.isBlank c = false := by
  induction spells with
  | nil => exact fun _ => nofun
  | cons means spells ih => exact List.forall_mem_append.mpr ⟨means.notBlank, ih⟩

theorem Spells.solid_ofList (spells : Spells count text bytes) :
    solid (String.ofList text) = text := by
  rw [solid, String.toList_ofList, List.filter_eq_self]
  intro c listed
  rw [spells.notBlank c listed]
  rfl

/-! ## Writing -/

theorem means_single {byte : MaskedByte} (digitwise : byte.IsDigitwise) :
    (Piece.single byte).token.Means count [byte] := by
  obtain ⟨value, mask⟩ := byte
  obtain ⟨high, low⟩ := isDigitwise_iff.mp digitwise
  have means : Token.Means count _ _ := .pair high.isNibble low.isNibble
  rwa [Nat.div_add_mod', Nat.div_add_mod', UInt8.ofNat_toNat, UInt8.ofNat_toNat] at means

theorem Piece.means (piece : Piece) (digitwise : ∀ byte ∈ piece.bytes, byte.IsDigitwise)
    (short : piece.bytes.length ≤ jumpLimit) (fits : count + piece.bytes.length ≤ lengthLimit) :
    piece.token.Means count piece.bytes := by
  have isLength (length : Nat) : Text.IsUnsigned 10 (Text.digits 10 length) length :=
    Text.isUnsigned_digits (by decide) (by decide) length
  cases piece with
  | single byte => exact means_single (digitwise byte (List.mem_singleton_self byte))
  | gap length =>
      rw [Piece.bytes, List.length_replicate] at short fits
      exact .jump (.once (isLength length)) short fits
  | range length =>
      rw [Piece.bytes, List.length_replicate] at short fits
      exact .jump (.twice (isLength length) (isLength length)) short fits

/-- What is written for some pieces spells them. -/
theorem spells_pieces {pieces : List Piece}
    (digitwise : ∀ byte ∈ pieces.flatMap Piece.bytes, byte.IsDigitwise)
    (short : ∀ piece ∈ pieces, piece.bytes.length ≤ jumpLimit)
    (fits : count + (pieces.flatMap Piece.bytes).length ≤ lengthLimit) :
    Spells count (pieces.flatMap fun piece => piece.token.text) (pieces.flatMap Piece.bytes) := by
  induction pieces generalizing count with
  | nil => exact .nil
  | cons piece pieces ih =>
      rw [List.flatMap_cons, List.forall_mem_append] at digitwise
      rw [List.forall_mem_cons] at short
      rw [List.flatMap_cons, List.length_append, ← Nat.add_assoc] at fits
      have means := piece.means digitwise.1 short.1 (Nat.le_of_add_right_le fits)
      exact .cons means (ih digitwise.2 short.2 fits)

/-- A source is read if and only if it spells a pattern, which is then the result and consists of
bytes of two digits. Any such pattern that is not too long is the result of reading it as it is
written, byte by byte or with jumps for some of the free bytes, whatever blanks are added. -/
theorem ofText_exact :
    (∀ source bytes, ofText source = .ok bytes ↔ Spells 0 (solid source) bytes) ∧
    (∀ source bytes, ofText source = .ok bytes → ∀ byte ∈ bytes, byte.IsDigitwise) ∧
    ∀ pattern : List MaskedByte, (∀ byte ∈ pattern, byte.IsDigitwise) →
      pattern.length ≤ lengthLimit → ∀ pieces : List Piece, pieces.flatMap Piece.bytes = pattern →
      (∀ piece ∈ pieces, piece.bytes.length ≤ jumpLimit) →
      ∀ source, solid source = solid (written pieces) → ofText source = .ok pattern := by
  refine ⟨fun source bytes => ofText_eq_ok_iff, ?_, ?_⟩
  · intro source bytes isRead
    exact (ofText_eq_ok_iff.mp isRead).isDigitwise
  · rintro pattern digitwise fits pieces rfl short source same
    have fits : 0 + (pieces.flatMap Piece.bytes).length ≤ lengthLimit := by rwa [Nat.zero_add]
    have spells := spells_pieces digitwise short fits
    rw [ofText_eq_ok_iff, same, written, spells.solid_ofList]
    exact spells

end HexPattern

end ByteScan
