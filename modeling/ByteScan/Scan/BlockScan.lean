import ByteScan.Scan.Confirmation

/-!
# Scanning a block

The automaton walks over the bytes of a block. At every position, the one after the last byte
included, the candidates of the state reached there are confirmed before the next byte is taken.
-/

namespace ByteScan.Scan

/-- The deadline is checked at every position that is a multiple of this. -/
def deadlineStride : Nat := 4096

/-- Confirms those of some candidates that begin within the block, and counts them. -/
def confirmAll (rules : RuleSet) (block : Block) (position : Nat) : List Candidate → ScanM Nat
  | [] => pure 0
  | candidate :: candidates => do
    let backtrack := candidate.backtrack.toNat
    if backtrack ≤ position then
      verify rules candidate.string block (position - backtrack)
      let count ← confirmAll rules block position candidates
      pure (count + 1)
    else confirmAll rules block position candidates

def confirmState (rules : RuleSet) (block : Block) (position state : Nat) : ScanM Nat :=
  confirmAll rules block position (rules.automaton.candidatesAt state)

def byteAt (data : ByteArray) (position : Nat) : UInt8 :=
  if h : position < data.size then data[position] else 0

def walk (rules : RuleSet) (block : Block) : Nat → Nat → Nat → Nat → ScanM Nat
  | 0, position, state, count => do
    let more ← confirmState rules block position state
    pure (count + more)
  | left + 1, position, state, count => do
    if position % deadlineStride = 0 then Context.checkDeadline
    let more ← confirmState rules block position state
    let next := rules.automaton.step state (byteAt block.data position)
    walk rules block left (position + 1) next (count + more)

/-- Records the occurrences of all strings in a block, and counts the candidates on the way. -/
def scanBlock (rules : RuleSet) (block : Block) : ScanM Nat :=
  walk rules block block.data.size 0 Automaton.root 0

end ByteScan.Scan
