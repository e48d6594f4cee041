/-!
# Scan slots

Every scan of a rule set holds one of thirty-two slots while it runs, so no more scans than that run
at the same time. A scan takes the lowest slot that is free.
-/

namespace ByteScan

/-- Which slots are held; bit `i` stands for slot `i`. -/
structure Slots where
  mask : BitVec 32
  deriving DecidableEq, Repr

namespace Slots

def count : Nat := 32

def empty : Slots := ⟨0⟩

instance : Inhabited Slots := ⟨empty⟩

def isHeld (slots : Slots) (slot : Nat) : Bool := slots.mask.getLsbD slot

def acquire? (slots : Slots) : Option (Nat × Slots) :=
  match (List.range count).find? fun slot => !slots.isHeld slot with
  | some slot => some (slot, ⟨slots.mask ||| BitVec.twoPow 32 slot⟩)
  | none => none

def release (slots : Slots) (slot : Nat) : Slots := ⟨slots.mask &&& ~~~BitVec.twoPow 32 slot⟩

def held (slots : Slots) : Nat := (List.range count).countP slots.isHeld

end Slots

end ByteScan
