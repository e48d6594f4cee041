import ByteScan.Regex.Layout
import Std.Data.HashMap

/-!
# Footprint of an expression

An expression is refused if the instructions that search for it would take more than a limit. They
are reckoned twice, for reading texts from their start and from their end. An instruction takes 32
bytes, each range of bytes at which it goes on takes 8 more, and each way on from a fork 4 more.
Characters beyond ASCII take instructions for the bytes of their forms, where forms that go on in the
same way share instructions as far as a table of bounded size remembers them.
-/

namespace ByteScan.Regex

structure Footprint where
  count : Nat
  bytes : Nat
  deriving DecidableEq, Repr

/-- Laying instructions, which fails once they take more than the limit. -/
abbrev Laying := StateT Footprint Option

namespace Footprint

def limit : Nat := 10 * 1024 * 1024

def grow (extra : Nat) : Laying Unit := fun footprint =>
  let bytes := footprint.bytes + extra
  if bytes ≤ limit then some ((), { footprint with bytes }) else none

def lay (extra : Nat) : Laying Nat := fun footprint =>
  (grow (32 + extra) { footprint with count := footprint.count + 1 }).map fun (_, laid) =>
    (footprint.count, laid)

def layPlain (count : Nat) : Laying Unit := fun footprint =>
  grow (32 * count) { footprint with count := footprint.count + count }

/-- Goes on after a piece; a piece that ends in a fork takes one more way on. -/
def leadOn (fork : Bool) : Laying Unit := if fork then grow 4 else pure ()

/-! ## Classes -/

def laySet (ranges : Nat) : Laying Unit := do
  layPlain 1
  let _ ← lay (8 * ranges)

/-- A table that remembers instructions by what they do. Each instruction has one slot, and a later
instruction for a slot takes the place of an earlier one. -/
abbrev Memory (key : Type) := Std.HashMap Nat (key × Nat)

def mix (hash value : UInt64) : UInt64 := (hash ^^^ value) * 1099511628211

def slot (size : Nat) (values : List UInt64) : Nat :=
  (values.foldl mix 14695981039346656037).toNat % size

def layOnce [BEq key] (slot : Nat) (entry : key) (extra : Nat) :
    StateT (Memory key) Laying Nat := do
  let known := (← get)[slot]?
  match known with
  | some (found, number) =>
    if found == entry then return number
    else
      let number ← lay extra
      modify (·.insert slot (entry, number))
      return number
  | none =>
    let number ← lay extra
    modify (·.insert slot (entry, number))
    return number

/-- Where an instruction goes on: at an instruction, for the bytes of a range. -/
abbrev Way := (UInt8 × UInt8) × Nat

def wayValues (ways : List Way) : List UInt64 :=
  ways.flatMap fun way => [way.1.1.toUInt64, way.1.2.toUInt64, way.2.toUInt64]

mutual

/-- The instruction that takes the first byte of some runs, of which none is longer than the given
length; it goes on at `target` after the last byte. The instructions after it are laid before it. -/
def layRuns (target : Nat) : Nat → List ByteRun → StateT (Memory (List Way)) Laying Nat
  | 0, _ => return target
  | length + 1, runs => do
    if runs.all List.isEmpty then return target
    let ways ← layGroups target length
      (runs.splitBy fun first second => first.head? == second.head?)
    layOnce (slot 10000 (wayValues ways)) ways (8 * ways.length)

def layGroups (target : Nat) : Nat → List (List ByteRun) →
    StateT (Memory (List Way)) Laying (List Way)
  | _, [] => return []
  | length, group :: groups => do
    let next ← layRuns target length (group.map List.tail)
    let ways ← layGroups target length groups
    match group with
    | (range :: _) :: _ => return (range, next) :: ways
    | _ => return ways

end

def layForward (runs : List ByteRun) : Laying Unit := do
  let target ← lay 0
  let _ ← (layRuns target 4 runs).run ∅

def layRun : Nat → ByteRun → StateT (Memory Way) Laying Unit
  | _, [] => return
  | target, range :: run => do
    let values := [target.toUInt64, range.1.toUInt64, range.2.toUInt64]
    let number ← layOnce (slot 1000 values) (range, target) 0
    layRun number run

def layEachRun (target : Nat) : List ByteRun → StateT (Memory Way) Laying Unit
  | [] => return
  | run :: runs => do
    layRun target run
    grow 4
    layEachRun target runs

def layBackward (runs : List ByteRun) : Laying Unit := do
  let _ ← lay 0
  let target ← lay 0
  let _ ← (layEachRun target runs).run ∅

def layScalars (backward : Bool) (ranges : Text.ScalarRanges) : Laying Unit :=
  if Layout.isAscii ranges then laySet ranges.length
  else if backward then layBackward (byteRuns ranges)
  else layForward (byteRuns ranges)

/-! ## Choices of literals -/

/-- What follows each byte that some nonempty texts begin with. -/
def byFirst (texts : List (List UInt8)) : List (List (List UInt8)) :=
  (texts.filterMap List.head?).eraseDups.map fun byte =>
    texts.filterMap fun text => if text.head? = some byte then some text.tail else none

/-- The texts up to the next one that is empty, in order. -/
def chunks : List (List UInt8) → List (List (List UInt8))
  | [] => [[]]
  | [] :: texts => [] :: chunks texts
  | text :: texts =>
    match chunks texts with
    | chunk :: others => (text :: chunk) :: others
    | [] => [[text]]

/-- The instructions for a choice of texts that share what they begin with. The first argument bounds
the length of the texts. An empty text is a way on of its own, which parts the texts before it from
those after it, as the earlier ones are preferred. -/
def layTexts : Nat → List (List UInt8) → Laying Unit
  | 0, _ => return
  | length + 1, texts => do
    let parted := chunks (texts.dropWhile List.isEmpty)
    let filled := parted.filter fun chunk => !chunk.isEmpty
    let ended := parted.length - 1 + (if (texts.head?.map List.isEmpty) == some true then 1 else 0)
    filled.forM fun chunk => do
      let followers := byFirst chunk
      followers.forM fun follower => do
        unless follower.all List.isEmpty do layTexts length follower
      let _ ← lay (if followers.length = 1 then 0 else 8 * followers.length)
    let _ ← lay (4 * (filled.length + ended))

def layLiterals (texts : List (List UInt8)) : Laying Unit := do
  layPlain 1
  layTexts ((texts.map List.length).foldl max 0 + 1) texts

/-! ## Repetitions -/

def layRounds (round : Laying Bool) : Nat → Bool → Laying Bool
  | 0, fork => return fork
  | count + 1, fork => do
    let next ← round
    leadOn fork
    layRounds round count next

def layExactly (round : Laying Bool) : Nat → Laying Bool
  | 0 => do
    layPlain 1
    return false
  | count + 1 => do
    let fork ← round
    layRounds round count fork

def layOptional (round : Laying Bool) : Nat → Bool → Laying Unit
  | 0, fork => leadOn fork
  | count + 1, fork => do
    layPlain 1
    let next ← round
    leadOn fork
    grow 8
    layOptional round count next

def layFrom (consumes : Bool) (round : Laying Bool) : Nat → Laying Bool
  | 0 =>
    if consumes then do
      layPlain 1
      let fork ← round
      grow 4
      leadOn fork
      return true
    else do
      let fork ← round
      layPlain 3
      grow 16
      leadOn fork
      return false
  | 1 => do
    let fork ← round
    layPlain 1
    grow 4
    leadOn fork
    return true
  | count + 2 => do
    let before ← layExactly round (count + 1)
    let fork ← round
    layPlain 1
    grow 4
    leadOn before
    leadOn fork
    return true

def layBetween (least most : Nat) (round : Laying Bool) : Laying Bool :=
  if least = 0 ∧ most = 1 then do
    layPlain 1
    let fork ← round
    layPlain 1
    grow 8
    leadOn fork
    return false
  else if least = most then layExactly round least
  else do
    let fork ← layExactly round least
    layPlain 1
    layOptional round (most - least) fork
    return false

end Footprint

namespace Layout

def literal? : Layout → Option (List UInt8)
  | .literal bytes => some bytes
  | _ => none

mutual

/-- Lays the instructions of a layout; gives whether they end in a fork. -/
def lay (backward : Bool) : Layout → Laying Bool
  | .empty | .look _ => do
    Footprint.layPlain 1
    return false
  | .literal bytes => do
    Footprint.layPlain bytes.length
    return false
  | .byteClass set => do
    Footprint.laySet set.runs
    return false
  | .charClass ranges => do
    Footprint.layScalars backward ranges
    return false
  | .repetition least most _ inner =>
    match most with
    | some most => Footprint.layBetween least most (inner.lay backward)
    | none => Footprint.layFrom (inner.consumes? == some true) (inner.lay backward) least
  | .group inner =>
    if backward then inner.lay backward
    else do
      Footprint.layPlain 1
      let fork ← inner.lay backward
      Footprint.layPlain 1
      Footprint.leadOn fork
      return false
  | .sequence parts => layParts backward false parts
  | .choice branches =>
    match branches.mapM literal? with
    | some texts => do
      Footprint.layLiterals texts
      return false
    | none => do
      layBranches backward 0 branches
      return false

def layParts (backward : Bool) (fork : Bool) : List Layout → Laying Bool
  | [] => return fork
  | part :: parts => do
    let next ← part.lay backward
    Footprint.leadOn fork
    layParts backward next parts

/-- Lays the branches of a choice from the one with an index on. The fork before the branches and
the joint after them come after the second branch. -/
def layBranches (backward : Bool) (index : Nat) : List Layout → Laying Unit
  | [] => return
  | branch :: branches => do
    let fork ← branch.lay backward
    if index = 1 then Footprint.layPlain 2
    Footprint.grow 4
    Footprint.leadOn fork
    layBranches backward (index + 1) branches

end

/-- Lays all that reads texts in one direction. In front stands what skips the bytes before a match,
unless a match can only begin where the text does. -/
def layWhole (backward : Bool) (layout : Layout) : Laying Unit := do
  if layout.beginsAt (if backward then .finish else .start) then Footprint.layPlain 1
  else
    Footprint.layPlain 1
    Footprint.laySet 1
    Footprint.grow 8
  let fork ← if backward then layout.lay backward else (Layout.group layout).lay backward
  Footprint.leadOn fork
  Footprint.layPlain 1

/-- The instructions for reading in either direction are within the limit. -/
def fits (layout : Layout) : Bool :=
  (layWhole false layout ⟨0, 0⟩).isSome && (layWhole true layout.reverse ⟨0, 0⟩).isSome

end Layout

end ByteScan.Regex
