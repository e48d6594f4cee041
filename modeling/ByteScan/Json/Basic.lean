import ByteScan.Binary64.Basic

/-!
# JSON values

The values that a JSON text can hold, as far as a reader of this library may ask about them.
Integers that fit a machine word are kept apart from doubles. Two nodes stand for parts of a text
that are well formed but hold no value: a number beyond the range of doubles and a string with an
unpaired surrogate. No reader accepts them, but a reader that ignores the part does not mind.
-/

namespace ByteScan

inductive Json where
  | null
  | bool (value : Bool)
  /-- An integer below `2 ^ 64` without a minus sign. -/
  | natural (value : Nat)
  /-- A negative integer of at least `-2 ^ 63`. -/
  | negative (value : Int)
  | float (value : Binary64)
  | outOfRange
  | string (value : String)
  | unpaired
  | array (items : List Json)
  /-- Entries in the order of the text; a key with an unpaired surrogate is absent. -/
  | object (entries : List (Option String × Json))
  deriving Inhabited

end ByteScan
