import ByteScan.Error

/-!
# Arenas

An arena keeps items in the order in which they were added and gives each a number that stays valid
until the arena is cleared. Numbers are words of thirty-two bits, so an arena can be full. Room for
the first items is taken ahead, so that there can also be too little of it to begin with.
-/

namespace ByteScan

structure Arena (α : Type) where
  items : Array α
  deriving Repr

namespace Arena

def empty : Arena α := ⟨#[]⟩

instance : Inhabited (Arena α) := ⟨empty⟩

def addressSpace : Nat := 0x800000000000

/-- The arena without items, with room for at least one; `room` items of a size in bytes have to fit
into what can be addressed. -/
def withRoom (itemSize room : Nat) : Except Error (Arena α) :=
  if addressSpace < max 1 room * itemSize then .error .insufficientMemory else .ok empty

def capacity : Nat := UInt32.size - 1

def size (arena : Arena α) : Nat := arena.items.size

def isEmpty (arena : Arena α) : Bool := arena.items.isEmpty

def toList (arena : Arena α) : List α := arena.items.toList

def push (arena : Arena α) (item : α) : Except Error (Nat × Arena α) :=
  if capacity ≤ arena.items.size then .error .insufficientMemory
  else
    let number := arena.items.size
    .ok (number, ⟨arena.items.push item⟩)

def get? (arena : Arena α) (number : Nat) : Option α := arena.items[number]?

def modify (arena : Arena α) (number : Nat) (change : α → α) : Arena α :=
  ⟨arena.items.modify number change⟩

def last? (arena : Arena α) : Option α := arena.items.back?

end Arena

end ByteScan
