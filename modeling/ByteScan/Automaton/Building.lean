import ByteScan.Automaton.Basic
import ByteScan.Automaton.Trie

/-!
# Building an automaton from atoms

The states of the automaton are the nodes of the trie of all atoms. Each node is placed at the first
cell where its own cell and those of its transitions are free, so that nodes share the gaps in each
other's reach. The candidates of a node are the atoms that end there in the order in which they were
given, followed by the candidates of its failure node.
-/

namespace ByteScan

structure Sign where
  word : Word
  /-- The distance from the end of the atom back to where the string begins. -/
  backtrack : UInt16
  string : Nat
  deriving DecidableEq, Repr, Inhabited

namespace Placing

/-- The cells that are taken, and a cell before which none is free. -/
structure Occupancy where
  /-- For each cell, whether it is taken; cells beyond are free. -/
  used : Array Bool
  firstFree : Nat

def isFree (used : Array Bool) (cell : Nat) : Bool := !used.getD cell false

def fits (used : Array Bool) (children : List UInt8) (position : Nat) : Bool :=
  isFree used position && children.all fun byte => isFree used (position + labelOf byte)

def firstFit (used : Array Bool) (children : List UInt8) (position : Nat) : Nat :=
  if position < used.size then
    if fits used children position then position else firstFit used children (position + 1)
  else position
termination_by used.size - position

def nextFree (used : Array Bool) (cell : Nat) : Nat :=
  if cell < used.size then
    if isFree used cell then cell else nextFree used (cell + 1)
  else cell
termination_by used.size - cell

def occupy (used : Array Bool) (cell : Nat) : Array Bool :=
  (used ++ Array.replicate (cell + 1 - used.size) false).setIfInBounds cell true

def placeAll : Occupancy → List TrieNode → List (TrieNode × Nat)
  | _, [] => []
  | ⟨used, firstFree⟩, node :: nodes =>
    let position := firstFit used node.children firstFree
    let taken := position :: node.children.map fun byte => position + labelOf byte
    let used := taken.foldl occupy used
    (node, position) :: placeAll ⟨used, nextFree used firstFree⟩ nodes

def place (nodes : List TrieNode) : List (TrieNode × Nat) := placeAll ⟨#[], 0⟩ nodes

end Placing

namespace Automaton

def positionsOf (placed : List (TrieNode × Nat)) : Std.HashMap Word Nat :=
  placed.foldl (fun positions entry => positions.insert entry.1.word entry.2) ∅

def positionOf (positions : Std.HashMap Word Nat) (word : Word) : Nat := positions.getD word 0

def failurePosition (positions : Std.HashMap Word Nat) (word : Word) : Nat :=
  positionOf positions (Trie.failureWord positions.contains word)

/-- How many cells the table has: every position has a full reach behind it. -/
def tableSize (placed : List (TrieNode × Nat)) : Nat :=
  placed.foldl (fun largest entry => max largest entry.2) 0 + stateSpan

def writeNode (positions : Std.HashMap Word Nat) (cells : Array Cell) (node : TrieNode)
    (position : Nat) : Array Cell :=
  let own := cells.setIfInBounds position (.failure (failurePosition positions node.word))
  node.children.foldl
    (fun cells byte =>
      cells.setIfInBounds (position + labelOf byte)
        (.transition (positionOf positions (node.word ++ [byte])) (labelOf byte)))
    own

structure Lists where
  /-- For each cell, the index of the first candidate of the state there. -/
  heads : Array (Option Nat)
  candidates : Array Candidate

/-- Puts candidates in front of a list. Their numbers are words of thirty-two bits unless there are more
signs than such words: `candidate_lt`. -/
def prependAll (candidates : Array Candidate) (head : Option Nat) :
    List Sign → Array Candidate × Option Nat
  | [] => (candidates, head)
  | sign :: signs =>
    let (candidates, head) := prependAll candidates head signs
    let index := candidates.size
    (candidates.push ⟨sign.backtrack, sign.string, head⟩, some index)

/-- Writes the candidates of a node. The failure node of every other node is written before it. -/
def writeLists (positions : Std.HashMap Word Nat) (signs : List Sign) (lists : Lists)
    (node : TrieNode) (position : Nat) : Lists :=
  let inherited :=
    if node.word.isEmpty then none
    else lists.heads.getD (failurePosition positions node.word) none
  let own := signs.filter fun sign => sign.word = node.word
  let (candidates, head) := prependAll lists.candidates inherited own
  ⟨lists.heads.setIfInBounds position head, candidates⟩

def tablesOf (signs : List Sign) (strings : Nat) : Tables :=
  let placed := Placing.place (Trie.nodes (signs.map Sign.word))
  let positions := positionsOf placed
  let size := tableSize placed
  let cells := placed.foldl (fun cells entry => writeNode positions cells entry.1 entry.2)
    (Array.replicate size ⟨0, 0⟩)
  let lists := placed.foldl (fun lists entry => writeLists positions signs lists entry.1 entry.2)
    ⟨Array.replicate size none, #[]⟩
  ⟨cells, lists.heads, lists.candidates, strings⟩

def tableLimit : Nat := UInt32.size - 1

inductive BuildFault where
  | tooLarge
  | tables (fault : Tables.Fault)
  deriving DecidableEq, Repr

def ofSigns (signs : List Sign) (strings : Nat) : Except BuildFault Automaton :=
  let tables := tablesOf signs strings
  if tableLimit < tables.cells.size then .error .tooLarge
  else
    match ofTables tables with
    | .ok automaton => .ok automaton
    | .error fault => .error (.tables fault)

end Automaton

end ByteScan
