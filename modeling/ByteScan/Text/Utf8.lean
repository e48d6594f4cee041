/-!
# Reading UTF-8

`first` takes the first character off some bytes. Bytes that begin no character are taken off as
one malformed piece: a lead byte together with as many of the bytes after it as could still belong
to a character. `decode` puts the replacement character in place of each malformed piece, so that
any bytes at all can be shown.
-/

namespace ByteScan.Utf8

def within (low high : UInt8) (byte : UInt8) : Bool := low ≤ byte && byte ≤ high

def isContinuation (byte : UInt8) : Bool := within 0x80 0xbf byte

def payload (byte : UInt8) : Nat := byte.toNat % 0x40

/-- The bounds of the byte after a lead byte, and how many bytes follow the lead byte. The bounds
leave out forms that are longer than needed, surrogates and numbers beyond the last character. -/
def lead? (byte : UInt8) : Option (UInt8 × UInt8 × Nat) :=
  if within 0xc2 0xdf byte then some (0x80, 0xbf, 1)
  else if byte = 0xe0 then some (0xa0, 0xbf, 2)
  else if byte = 0xed then some (0x80, 0x9f, 2)
  else if within 0xe1 0xef byte then some (0x80, 0xbf, 2)
  else if byte = 0xf0 then some (0x90, 0xbf, 3)
  else if within 0xf1 0xf3 byte then some (0x80, 0xbf, 3)
  else if byte = 0xf4 then some (0x80, 0x8f, 3)
  else none

/-- Takes `count` continuation bytes, the payloads of which are appended to `code`. -/
def continuations : Nat → Nat → List UInt8 → Option Char × List UInt8
  | 0, code, rest => (some (Char.ofNat code), rest)
  | _ + 1, _, [] => (none, [])
  | count + 1, code, byte :: rest =>
    if isContinuation byte then continuations count (code * 0x40 + payload byte) rest
    else (none, byte :: rest)

def leadPayload (byte : UInt8) (count : Nat) : Nat := byte.toNat % 1 <<< (6 - count)

/-- The character that begins with a byte, if it is not malformed, and what follows it. -/
def first (byte : UInt8) (rest : List UInt8) : Option Char × List UInt8 :=
  if byte < 0x80 then (some (Char.ofNat byte.toNat), rest)
  else
    match lead? byte, rest with
    | some (low, high, count), second :: more =>
      if within low high second then
        continuations (count - 1) (leadPayload byte count * 0x40 + payload second) more
      else (none, rest)
    | _, _ => (none, rest)

def replacement : Char := '\uFFFD'

theorem continuations_length (count code : Nat) (bytes : List UInt8) :
    (continuations count code bytes).2.length ≤ bytes.length := by
  induction count generalizing code bytes with
  | zero => exact Nat.le_refl _
  | succ count ih =>
    cases bytes with
    | nil => exact Nat.le_refl _
    | cons byte rest =>
      unfold continuations
      split
      · have := ih (code * 0x40 + payload byte) rest
        simp only [List.length_cons]
        omega
      · exact Nat.le_refl _

theorem first_length (byte : UInt8) (rest : List UInt8) :
    (first byte rest).2.length ≤ rest.length := by
  unfold first
  split
  · exact Nat.le_refl _
  · split
    · split
      · exact Nat.le_trans (continuations_length _ _ _) (by simp)
      · exact Nat.le_refl _
    · exact Nat.le_refl _

/-- The characters of some bytes, with the replacement character for each malformed piece. -/
def decode : List UInt8 → List Char
  | [] => []
  | byte :: rest =>
    (first byte rest).1.getD replacement :: decode (first byte rest).2
termination_by bytes => bytes.length
decreasing_by
  have := first_length byte rest
  simp only [List.length_cons]
  omega

end ByteScan.Utf8
