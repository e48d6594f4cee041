import ByteScan.Pattern.Hex
import ByteScan.Regex.Basic

/-!
# Strings of rules

A string is what a rule looks for in data: a text, a hex pattern or a regular expression, together
with modifiers. Whether letters match in either case is a modifier, and the regular expression of
a string is compiled for it.
-/

namespace ByteScan

structure Modifiers where
  nocase : Bool := false
  ascii : Bool := false
  /-- The text is looked for with a zero byte after each of its bytes. -/
  wide : Bool := false
  fullword : Bool := false
  deriving DecidableEq, Repr, Inhabited

namespace Modifiers

/-- The modifiers as the bits of a number, `nocase` the lowest. -/
def bits (modifiers : Modifiers) : Nat :=
  modifiers.nocase.toNat + 2 * modifiers.ascii.toNat + 4 * modifiers.wide.toNat +
    8 * modifiers.fullword.toNat

/-- The modifiers with given bits; no other bits may be set. -/
def ofBits? (bits : Nat) : Option Modifiers :=
  if bits < 16 then
    some ⟨bits.testBit 0, bits.testBit 1, bits.testBit 2, bits.testBit 3⟩
  else none

def narrow (modifiers : Modifiers) : Bool := modifiers.ascii || !modifiers.wide

theorem ofBits?_bits (modifiers : Modifiers) : ofBits? modifiers.bits = some modifiers := by
  rcases modifiers with ⟨_ | _, _ | _, _ | _, _ | _⟩ <;> rfl

end Modifiers

inductive Pattern (caseless : Bool) where
  | text (bytes : List UInt8)
  | hex (bytes : List MaskedByte)
  | regex (regex : Regex caseless)

def Pattern.kind : Pattern caseless → String
  | .text _ => "text"
  | .hex _ => "hex"
  | .regex _ => "regex"

structure StringDef where
  identifier : String
  rule : Nat
  modifiers : Modifiers
  pattern : Pattern modifiers.nocase

end ByteScan
