import ByteScan.Scan.Arena
import Mathlib.Data.List.Basic

/-!
# Arenas in chunks

The items of an arena lie in chunks, so that none of them moves when the arena grows: a chunk that is
full stays as it is, and the next one has twice its room. An item is found by its number, which goes
through the chunks. From outside none of this can be told: all that is done with an arena is done with
the list of its items.
-/

namespace ByteScan

structure Chunk (α : Type) where
  items : Array α
  /-- How many items the chunk can hold. -/
  room : Nat

/-- An arena the items of which lie in chunks. -/
structure Chunks (α : Type) where
  chunks : List (Chunk α)
  /-- The room of the first chunk. -/
  initial : Nat
  size : Nat

namespace Chunks

def withRoom (room : Nat) : Chunks α := ⟨[⟨#[], max 1 room⟩], max 1 room, 0⟩

def items (arena : Chunks α) : List α := arena.chunks.flatMap fun chunk => chunk.items.toList

def doubled (room : Nat) : Nat := min (2 * room) (UInt64.size - 1)

/-- Chunks with one more item in the last one, or in a new one if that is full. -/
def extend (initial : Nat) (chunks : List (Chunk α)) (item : α) : List (Chunk α) :=
  match chunks.getLast? with
  | none => [⟨#[item], initial⟩]
  | some last =>
    if last.items.size = last.room then chunks ++ [⟨#[item], doubled last.room⟩]
    else chunks.dropLast ++ [{ last with items := last.items.push item }]

def push (arena : Chunks α) (item : α) : Except Error (Nat × Chunks α) :=
  if Arena.capacity ≤ arena.size then .error .insufficientMemory
  else
    .ok (arena.size, { arena with
      chunks := extend arena.initial arena.chunks item, size := arena.size + 1 })

/-- The place of a chunk, and the offset in it of the item with a number. -/
def locateIn : List (Chunk α) → Nat → Option (Nat × Nat)
  | [], _ => none
  | chunk :: chunks, number =>
    if number < chunk.items.size then some (0, number)
    else (locateIn chunks (number - chunk.items.size)).map fun (place, offset) => (place + 1, offset)

def get? (arena : Chunks α) (number : Nat) : Option α := do
  let (place, offset) ← locateIn arena.chunks number
  let chunk ← arena.chunks[place]?
  chunk.items[offset]?

def modifyIn (chunks : List (Chunk α)) (number : Nat) (change : α → α) : List (Chunk α) :=
  match locateIn chunks number with
  | none => chunks
  | some (place, offset) =>
    chunks.modify place fun chunk => { chunk with items := chunk.items.modify offset change }

def modify (arena : Chunks α) (number : Nat) (change : α → α) : Chunks α :=
  { arena with chunks := modifyIn arena.chunks number change }

/-- Drops all items but keeps the first chunk. -/
def clear (arena : Chunks α) : Chunks α :=
  { arena with
    chunks := (arena.chunks.take 1).map fun chunk => { chunk with items := #[] }
    size := 0 }

/-- The items are counted, and no chunk holds more of them than it has room for. -/
structure Sound (arena : Chunks α) : Prop where
  counted : arena.size = arena.items.length
  initial : 0 < arena.initial
  roomy : ∀ chunk ∈ arena.chunks, 0 < chunk.room ∧ chunk.items.size ≤ chunk.room

theorem sound_withRoom (room : Nat) : (withRoom room : Chunks α).Sound := by
  refine ⟨rfl, ?_, ?_⟩
  · simp only [withRoom]
    omega
  · simp only [withRoom, List.mem_singleton, forall_eq]
    constructor
    · omega
    · exact Nat.zero_le _

/-! ## Looking up -/

theorem get?_eq (arena : Chunks α) (number : Nat) : arena.get? number = arena.items[number]? := by
  rw [get?, items]
  generalize arena.chunks = chunks
  induction chunks generalizing number with
  | nil => rfl
  | cons chunk chunks ih =>
      rw [locateIn, List.flatMap_cons]
      by_cases inside : number < chunk.items.size
      · rw [if_pos inside, List.getElem?_append_left (by simpa using inside), Array.getElem?_toList]
        rfl
      · rw [if_neg inside, List.getElem?_append_right (by simpa using inside), Array.length_toList,
          ← ih]
        cases locateIn chunks (number - chunk.items.size) with
        | none => rfl
        | some found => rfl

theorem modifyIn_cons (chunk : Chunk α) (chunks : List (Chunk α)) (number : Nat)
    (change : α → α) :
    modifyIn (chunk :: chunks) number change =
      if number < chunk.items.size then
        { chunk with items := chunk.items.modify number change } :: chunks
      else chunk :: modifyIn chunks (number - chunk.items.size) change := by
  rw [modifyIn, locateIn, modifyIn]
  by_cases inside : number < chunk.items.size
  · rw [if_pos inside, if_pos inside]
    rfl
  · rw [if_neg inside, if_neg inside]
    cases locateIn chunks (number - chunk.items.size) with
    | none => rfl
    | some found => rfl

theorem items_modify (arena : Chunks α) (number : Nat) (change : α → α) :
    (arena.modify number change).items = arena.items.modify number change := by
  rw [modify, items, items]
  dsimp only
  generalize arena.chunks = chunks
  induction chunks generalizing number with
  | nil => rw [List.flatMap_nil, List.modify_nil]; rfl
  | cons chunk chunks ih =>
      rw [modifyIn_cons, List.flatMap_cons]
      apply List.ext_getElem?
      intro place
      -- The number is one of the first chunk, or it is looked for in the others.
      by_cases inside : number < chunk.items.size
      · simp only [if_pos inside, List.flatMap_cons, List.getElem?_modify, List.getElem?_append,
          Array.length_toList, Array.size_modify, Array.getElem?_toList, Array.getElem?_modify]
        by_cases same : number = place
        · simp [← same, inside]
        · simp [same]
      · simp only [if_neg inside, List.flatMap_cons, ih, List.getElem?_modify, List.getElem?_append,
          Array.length_toList, Array.getElem?_toList]
        by_cases early : place < chunk.items.size
        · simp [early, show number ≠ place by omega]
        · simp [early, show number - chunk.items.size = place - chunk.items.size ↔ number = place
            by omega]

theorem size_chunk_of_modifyIn {chunks : List (Chunk α)} {number : Nat} {change : α → α}
    {chunk : Chunk α} (member : chunk ∈ modifyIn chunks number change) :
    ∃ other ∈ chunks, chunk.room = other.room ∧ chunk.items.size = other.items.size := by
  induction chunks generalizing number with
  | nil => cases member
  | cons first rest ih =>
      rw [modifyIn_cons] at member
      split at member
      · rcases List.mem_cons.mp member with rfl | later
        · exact ⟨first, List.mem_cons_self .., rfl, Array.size_modify⟩
        · exact ⟨chunk, List.mem_cons_of_mem _ later, rfl, rfl⟩
      · rcases List.mem_cons.mp member with rfl | later
        · exact ⟨chunk, List.mem_cons_self .., rfl, rfl⟩
        · obtain ⟨other, listed, same⟩ := ih later
          exact ⟨other, List.mem_cons_of_mem _ listed, same⟩

theorem Sound.modify {arena : Chunks α} (sound : arena.Sound) (number : Nat) (change : α → α) :
    (arena.modify number change).Sound := by
  refine ⟨?_, sound.initial, ?_⟩
  · rw [items_modify, List.length_modify]
    exact sound.counted
  · intro chunk member
    obtain ⟨other, listed, sameRoom, sameSize⟩ := size_chunk_of_modifyIn member
    rw [sameRoom, sameSize]
    exact sound.roomy other listed

/-! ## Adding and dropping -/

theorem items_extend (initial : Nat) (chunks : List (Chunk α)) (item : α) :
    (extend initial chunks item).flatMap (fun chunk => chunk.items.toList) =
      chunks.flatMap (fun chunk => chunk.items.toList) ++ [item] := by
  rw [extend]
  cases isLast : chunks.getLast? with
  | none =>
      rw [List.getLast?_eq_none_iff.mp isLast]
      rfl
  | some last =>
      dsimp only
      split
      · rw [List.flatMap_append, List.flatMap_singleton]
      · rw [← List.dropLast_append_getLast? last isLast]
        simp only [List.dropLast_concat, List.flatMap_append, List.flatMap_singleton,
          Array.toList_push, List.append_assoc]

theorem roomy_extend {initial : Nat} {chunks : List (Chunk α)} {item : α} (positive : 0 < initial)
    (roomy : ∀ chunk ∈ chunks, 0 < chunk.room ∧ chunk.items.size ≤ chunk.room) :
    ∀ chunk ∈ extend initial chunks item, 0 < chunk.room ∧ chunk.items.size ≤ chunk.room := by
  intro chunk member
  rw [extend] at member
  cases isLast : chunks.getLast? with
  | none =>
      rw [isLast] at member
      obtain rfl := List.mem_singleton.mp member
      exact ⟨positive, positive⟩
  | some last =>
      have known := roomy last (List.mem_of_getLast? isLast)
      rw [isLast] at member
      dsimp only at member
      split at member
      · rcases List.mem_append.mp member with before | isNew
        · exact roomy chunk before
        · obtain rfl := List.mem_singleton.mp isNew
          have more : 0 < doubled last.room := by
            have wide : 1 < UInt64.size := by decide
            unfold doubled
            omega
          exact ⟨more, more⟩
      · rename_i notFull
        rcases List.mem_append.mp member with before | isNew
        · exact roomy chunk (List.dropLast_subset _ before)
        · obtain rfl := List.mem_singleton.mp isNew
          dsimp only
          rw [Array.size_push]
          exact ⟨known.1, by omega⟩

/-- An item is added after the others unless all numbers are taken. -/
theorem Sound.push {arena : Chunks α} (sound : arena.Sound) (item : α)
    (free : arena.items.length < Arena.capacity) :
    ∃ after, arena.push item = .ok (arena.items.length, after) ∧
      after.items = arena.items ++ [item] ∧ after.Sound := by
  have added : (extend arena.initial arena.chunks item).flatMap (fun chunk => chunk.items.toList) =
      arena.items ++ [item] := items_extend ..
  rw [Chunks.push, sound.counted, if_neg (Nat.not_le.mpr free)]
  refine ⟨_, rfl, added, ?_, sound.initial, roomy_extend sound.initial sound.roomy⟩
  exact ((congrArg List.length added).trans List.length_append).symm

theorem Sound.push_full {arena : Chunks α} (sound : arena.Sound) (item : α)
    (full : Arena.capacity ≤ arena.items.length) :
    arena.push item = .error .insufficientMemory := by
  rw [Chunks.push, sound.counted, if_pos full]

theorem items_clear (arena : Chunks α) : arena.clear.items = [] := by
  rw [clear, items]
  rcases arena.chunks with _ | ⟨first, rest⟩ <;> rfl

theorem Sound.clear {arena : Chunks α} (sound : arena.Sound) : arena.clear.Sound := by
  refine ⟨?_, sound.initial, ?_⟩
  · rw [items_clear]
    rfl
  · intro chunk member
    obtain ⟨other, listed, rfl⟩ := List.mem_map.mp member
    exact ⟨(sound.roomy other (List.mem_of_mem_take listed)).1, Nat.zero_le _⟩

end Chunks

end ByteScan
