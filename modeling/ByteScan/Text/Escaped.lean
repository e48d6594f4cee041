import ByteScan.Byte

/-!
# Bytes as printable text

Any bytes can be shown as printable ASCII text. A quote and a backslash are led by a backslash, and
a byte that is not printable is written as `\x` and two hexadecimal digits.
-/

namespace ByteScan.Text

/-- The byte stands for a printable character of ASCII, a blank included. -/
def isPrintable (byte : UInt8) : Bool := 0x20 ≤ byte && byte ≤ 0x7e

def escapeByte (byte : UInt8) : List Char :=
  if byte = 0x5c then ['\\', '\\']
  else if byte = 0x22 then ['\\', '"']
  else if isPrintable byte then [Char.ofNat byte.toNat]
  else '\\' :: 'x' :: Byte.hexDigits byte

def escape (bytes : List UInt8) : String := String.ofList (bytes.flatMap escapeByte)

end ByteScan.Text
