import ByteScan.Regex.Program
import ByteScan.Text.Property
import ByteScan.Text.Utf8

/-!
# Matching a program at a position

All ways through a program are followed side by side, one byte of the data at a time. The places
reached are kept in order of preference and each at most once, so the time is bounded by the size
of the program times the length of the data. `matchEnd?` gives the end of the preferred match that
begins at a position; everything before that position is out of sight.
-/

namespace ByteScan.Regex

/-- Data, and the first position of it that is in sight. -/
structure View where
  data : ByteArray
  start : Nat

namespace View

def byte? (view : View) (position : Nat) : Option UInt8 :=
  if view.start ≤ position then view.data[position]? else none

def bytesFrom (view : View) (position count : Nat) : List UInt8 :=
  (List.range count).filterMap fun step => view.byte? (position + step)

/-- The character that begins at a position; absent at the end, malformed where no character
begins. -/
def charAfter? (view : View) (position : Nat) : Option (Option Char) :=
  match view.bytesFrom position 4 with
  | [] => none
  | byte :: rest => some (Utf8.first byte rest).1

def stepBack (view : View) : Nat → Nat → Nat
  | 0, position => position
  | fuel + 1, position =>
    match view.byte? position with
    | some byte =>
      if Utf8.isContinuation byte && view.start < position then view.stepBack fuel (position - 1)
      else position
    | none => position

/-- The character before a position; absent at the start, malformed where no character stands. -/
def charBefore? (view : View) (position : Nat) : Option (Option Char) :=
  if position ≤ view.start then none
  else
    let first := view.stepBack 3 (position - 1)
    match view.bytesFrom first (position - first) with
    | [] => none
    | byte :: rest => some (Utf8.first byte rest).1

def isWordByte (byte : UInt8) : Bool := Byte.isAlphanumeric byte || byte == 0x5f

def byteBefore? (view : View) (position : Nat) : Option UInt8 :=
  if position = 0 then none else view.byte? (position - 1)

def wordBefore? (view : View) (unicode : Bool) (position : Nat) : Option Bool :=
  if unicode then
    match view.charBefore? position with
    | none => some false
    | some c? => c?.map fun c => Text.Property.word.contains c.toNat
  else some ((view.byteBefore? position).any isWordByte)

def wordAfter? (view : View) (unicode : Bool) (position : Nat) : Option Bool :=
  if unicode then
    match view.charAfter? position with
    | none => some false
    | some c? => c?.map fun c => Text.Property.word.contains c.toNat
  else some ((view.byte? position).any isWordByte)

/-- A condition on words holds at a position. A malformed character belongs to no word, and the
conditions that ask for the absence of a word do not hold beside one. -/
def holdsWord (view : View) (condition : WordCondition) (unicode : Bool) (position : Nat) : Bool :=
  let before := view.wordBefore? unicode position
  let after := view.wordAfter? unicode position
  match condition with
  | .boundary => before.getD false != after.getD false
  | .notBoundary => before.isSome && before == after
  | .start => !before.getD false && after.getD false
  | .finish => before.getD false && !after.getD false
  | .startHalf => before == some false
  | .endHalf => after == some false

def holds (view : View) (look : Look) (position : Nat) : Bool :=
  match look with
  | .start => position == view.start
  | .finish => position == view.data.size
  | .startLine false => position == view.start || view.byteBefore? position == some 0x0a
  | .endLine false => position == view.data.size || view.byte? position == some 0x0a
  | .startLine true =>
    position == view.start || view.byteBefore? position == some 0x0a ||
      (view.byteBefore? position == some 0x0d && view.byte? position != some 0x0a)
  | .endLine true =>
    position == view.data.size || view.byte? position == some 0x0d ||
      (view.byte? position == some 0x0a && view.byteBefore? position != some 0x0d)
  | .word condition unicode => view.holdsWord condition unicode position

end View

structure Reached where
  /-- For each instruction the last position at which it was reached, plus one. -/
  marks : Array Nat
  /-- The instructions that wait for a byte, the preferred one last. -/
  waiting : List Nat
  /-- The expression has matched here, and nothing that is preferred less is of interest. -/
  accepted : Bool

/-- Follows every instruction that takes no byte, from some places in order of preference. -/
def follow (program : Program) (view : View) (position : Nat) :
    Nat → List Nat → Reached → Reached
  | 0, _, reached => reached
  | _ + 1, [], reached => reached
  | fuel + 1, place :: places, reached =>
    if reached.marks[place]? == some (position + 1) then
      follow program view position fuel places reached
    else
      let reached := { reached with marks := reached.marks.setIfInBounds place (position + 1) }
      match program.instructions[place]? with
      | some .accept => { reached with accepted := true }
      | some (.byte _ _) =>
        follow program view position fuel places
          { reached with waiting := place :: reached.waiting }
      | some (.split first second) =>
        follow program view position fuel (first :: second :: places) reached
      | some (.look condition next) =>
        let places := if view.holds condition position then next :: places else places
        follow program view position fuel places reached
      | some .fail | none => follow program view position fuel places reached

def followFuel (program : Program) : Nat := 2 * program.instructions.size + 2

def advance (program : Program) (view : View) (byte : UInt8) (position : Nat) :
    List Nat → Reached → Reached
  | [], reached => reached
  | place :: places, reached =>
    match program.instructions[place]? with
    | some (.byte bytes next) =>
      if bytes.contains byte then
        let reached := follow program view position (followFuel program) [next] reached
        if reached.accepted then reached else advance program view byte position places reached
      else advance program view byte position places reached
    | _ => advance program view byte position places reached

/-- Goes on from the places reached at a position; `last` is the end of the preferred match known
so far. The first argument bounds the bytes that are left. -/
def run (program : Program) (view : View) : Nat → Nat → Option Nat → Reached → Option Nat
  | 0, _, last, _ => last
  | left + 1, position, last, reached =>
    match reached.waiting, view.data[position]? with
    | [], _ => last
    | _, none => last
    | waiting, some byte =>
      let next :=
        advance program view byte (position + 1) waiting.reverse ⟨reached.marks, [], false⟩
      let last := if next.accepted then some (position + 1) else last
      run program view left (position + 1) last next

def Program.matchEnd? (program : Program) (data : ByteArray) (start : Nat) : Option Nat :=
  let view : View := ⟨data, start⟩
  let marks := Array.replicate program.instructions.size 0
  let reached := follow program view start (followFuel program) [program.start] ⟨marks, [], false⟩
  run program view (data.size - start) start (if reached.accepted then some start else none) reached

end ByteScan.Regex
