/-!
# Bytes as ASCII characters

Scanned data is bytes, and the rules about letters, digits and case know ASCII only: a byte of 128
or more is neither a letter nor a digit and has no other case.
-/

namespace ByteScan.Byte

def isUpper (byte : UInt8) : Bool := 0x41 ≤ byte && byte ≤ 0x5a

def isLower (byte : UInt8) : Bool := 0x61 ≤ byte && byte ≤ 0x7a

def isLetter (byte : UInt8) : Bool := isUpper byte || isLower byte

def isDigit (byte : UInt8) : Bool := 0x30 ≤ byte && byte ≤ 0x39

def isAlphanumeric (byte : UInt8) : Bool := isLetter byte || isDigit byte

def toLower (byte : UInt8) : UInt8 := if isUpper byte then byte + 0x20 else byte

def toUpper (byte : UInt8) : UInt8 := if isLower byte then byte - 0x20 else byte

def equalIgnoringCase (first second : UInt8) : Bool := toLower first == toLower second

def hexDigit (nibble : Nat) : Char :=
  if nibble < 10 then Char.ofNat (0x30 + nibble) else Char.ofNat (0x57 + nibble)

def hexDigits (byte : UInt8) : List Char :=
  [hexDigit (byte.toNat / 16), hexDigit (byte.toNat % 16)]

def hexText (bytes : List UInt8) : String := String.ofList (bytes.flatMap hexDigits)

def ofHexDigit? (digit : Char) : Option Nat :=
  if '0' ≤ digit ∧ digit ≤ '9' then some (digit.toNat - 0x30)
  else if 'a' ≤ digit ∧ digit ≤ 'f' then some (digit.toNat - 0x57)
  else if 'A' ≤ digit ∧ digit ≤ 'F' then some (digit.toNat - 0x37)
  else none

theorem ofHexDigit?_lt {digit : Char} {nibble : Nat} (h : ofHexDigit? digit = some nibble) :
    nibble < 16 := by
  unfold ofHexDigit? at h
  split at h
  · next bounds =>
    obtain ⟨_, upper⟩ := bounds
    replace upper : digit.toNat ≤ 0x39 := upper
    cases h
    omega
  · split at h
    · next bounds =>
      obtain ⟨_, upper⟩ := bounds
      replace upper : digit.toNat ≤ 0x66 := upper
      cases h
      omega
    · split at h
      · next bounds =>
        obtain ⟨_, upper⟩ := bounds
        replace upper : digit.toNat ≤ 0x46 := upper
        cases h
        omega
      · cases h

end ByteScan.Byte
