import ByteScan.Pattern.Basic

/-!
# Occurrences of strings

`StringDef.matchLength?` decides whether a string occurs at an offset of some data and how many
bytes it takes there. A string occurs only at an offset inside the data, and a regular expression
only where it takes at least one byte.
-/

namespace ByteScan

/-- A byte of the data is the expected byte, or another case of it where case is ignored. -/
def sameByte (nocase : Bool) (actual expected : UInt8) : Bool :=
  if nocase then Byte.equalIgnoringCase actual expected else actual == expected

/-- How many bytes of data a byte of text takes: in wide form each is followed by a zero. -/
def byteWidth (wide : Bool) : Nat := if wide then 2 else 1

def textStandsAt (nocase wide : Bool) (data : ByteArray) : List UInt8 → Nat → Bool
  | [], _ => true
  | expected :: text, offset =>
    if h : offset < data.size then
      sameByte nocase data[offset] expected && (!wide || data[offset + 1]? == some 0) &&
        textStandsAt nocase wide data text (offset + byteWidth wide)
    else false

def isWordAt (data : ByteArray) (offset : Nat) : Bool :=
  if h : offset < data.size then Byte.isAlphanumeric data[offset] else false

/-- Neither the character before an offset nor the byte at another one is a letter or digit. -/
def standsAlone (wide : Bool) (data : ByteArray) (offset stop : Nat) : Bool :=
  !(byteWidth wide ≤ offset && isWordAt data (offset - byteWidth wide)) && !isWordAt data stop

/-- The number of bytes that a text takes at an offset, in one of its two forms. -/
def textLength? (modifiers : Modifiers) (text : List UInt8) (wide : Bool) (data : ByteArray)
    (offset : Nat) : Option Nat :=
  let length := text.length * byteWidth wide
  if textStandsAt modifiers.nocase wide data text offset &&
      (!modifiers.fullword || standsAlone wide data offset (offset + length)) then some length
  else none

def hexStandsAt (data : ByteArray) : List MaskedByte → Nat → Bool
  | [], _ => true
  | expected :: bytes, offset =>
    if h : offset < data.size then
      expected.admits data[offset] && hexStandsAt data bytes (offset + 1)
    else false

/-- The number of bytes that a string takes at an offset, where it occurs. -/
def StringDef.matchLength? (string : StringDef) (data : ByteArray) (offset : Nat) : Option Nat :=
  if data.size ≤ offset then none
  else
    match string.pattern with
    | .text text =>
      let narrow :=
        if string.modifiers.narrow then textLength? string.modifiers text false data offset
        else none
      match narrow with
      | some length => some length
      | none =>
        if string.modifiers.wide then textLength? string.modifiers text true data offset else none
    | .hex bytes => if hexStandsAt data bytes offset then some bytes.length else none
    | .regex regex =>
      match regex.matchLength? data offset with
      | some length => if length = 0 then none else some length
      | none => none

end ByteScan
