/-!
# Tables of a packed automaton

An automaton that looks for many atoms at once keeps all its states in one table of cells. A state
is the index of its own cell. The cell that lies a byte's label after it is the transition on that
byte if the cell bears that label; otherwise the cell belongs to another state. A state's own cell
bears the label zero, which no byte has, and leads to the failure state, where the search goes on
when no transition fits. Beside each state stands the head of a list of candidates: strings that may
occur where the state is reached. `Tables.check` decides whether some tables are safe to follow.
-/

namespace ByteScan

structure Cell where
  next : UInt32
  label : UInt32
  deriving DecidableEq, Repr, Inhabited

structure Candidate where
  backtrack : UInt16
  string : Nat
  next : Option Nat
  deriving DecidableEq, Repr, Inhabited

namespace Cell

def target (cell : Cell) : Nat := cell.next.toNat

def key (cell : Cell) : Nat := cell.label.toNat % UInt16.size

def bears (cell : Cell) (label : Nat) : Bool := cell.key == label

def failure (state : Nat) : Cell := ⟨UInt32.ofNat state, 0⟩

def transition (state label : Nat) : Cell := ⟨UInt32.ofNat state, UInt32.ofNat label⟩

end Cell

/-- How many cells belong to the reach of a state: its own and one for each byte. -/
def stateSpan : Nat := 257

def labelOf (byte : UInt8) : Nat := byte.toNat + 1

structure Tables where
  cells : Array Cell
  /-- For each cell, the index of the first candidate of the state there. -/
  heads : Array (Option Nat)
  candidates : Array Candidate
  strings : Nat
  deriving DecidableEq, Repr

namespace Tables

inductive Fault where
  | shortTable
  | sizesDiffer
  | outside (cell : Nat)
  | reachedTwice (state : Nat)
  | failureLink (state : Nat)
  | headRange
  | unknownString (candidate : Nat)
  | forwardLink (candidate : Nat)
  deriving DecidableEq, Repr

def Fault.message : Fault → String
  | .shortTable => "transition table shorter than the root state"
  | .sizesDiffer => "match table and transition table sizes differ"
  | .outside cell => "cell " ++ toString cell ++ " points outside the table"
  | .reachedTwice state => "state " ++ toString state ++ " reached twice"
  | .failureLink state =>
    "failure link of state " ++ toString state ++ " does not lead to the root"
  | .headRange => "match table head out of range"
  | .unknownString candidate => "match " ++ toString candidate ++ " references unknown string"
  | .forwardLink candidate => "match " ++ toString candidate ++ " links forward"

/-- The cell at an index; beyond the table every cell is blank. -/
def cell (tables : Tables) (index : Nat) : Cell := tables.cells.getD index ⟨0, 0⟩

def failureOf (tables : Tables) (state : Nat) : Nat := (tables.cell state).target

def transition? (tables : Tables) (state label : Nat) : Option Nat :=
  let cell := tables.cell (state + label)
  if cell.bears label then some cell.target else none

structure Survey where
  /-- For each cell, how many transitions lead from the first state to the state there. -/
  depths : Array (Option Nat)
  /-- The states in the order in which they were found. -/
  order : Array Nat

def visit (tables : Tables) (state depth : Nat) (survey : Survey) (label : Nat) :
    Except Fault Survey :=
  match tables.transition? state label with
  | none => .ok survey
  | some child =>
    match survey.depths[child]? with
    | some none =>
      .ok ⟨survey.depths.setIfInBounds child (some (depth + 1)), survey.order.push child⟩
    | _ => .error (.reachedTwice child)

def labels : List Nat := (List.range 256).map (· + 1)

/-- Visits the states that were found, from the one at `cursor` on. The first argument bounds how
many are left. -/
def survey (tables : Tables) : Nat → Nat → Survey → Except Fault Survey
  | 0, _, found => .ok found
  | left + 1, cursor, found =>
    match found.order[cursor]? with
    | none => .ok found
    | some state => do
      let depth := ((found.depths[state]?).getD none).getD 0
      let found ← labels.foldlM (tables.visit state depth) found
      tables.survey left (cursor + 1) found

def reach (tables : Tables) : Except Fault Survey :=
  tables.survey tables.cells.size 0
    ⟨(Array.replicate tables.cells.size none).setIfInBounds 0 (some 0), #[0]⟩

/-- The failure state of a state is nearer to the first state. -/
def checkFailure (tables : Tables) (found : Survey) (state : Nat) : Except Fault Unit :=
  match (found.depths[tables.failureOf state]?).getD none, (found.depths[state]?).getD none with
  | some nearer, some depth => if nearer < depth then .ok () else .error (.failureLink state)
  | _, _ => .error (.failureLink state)

def checkCells (last : Nat) : Nat → List Cell → Except Fault Unit
  | _, [] => .ok ()
  | index, cell :: cells =>
    if last < cell.target then .error (.outside index) else checkCells last (index + 1) cells

def checkHeads (count : Nat) : List (Option Nat) → Except Fault Unit
  | [] => .ok ()
  | none :: heads => checkHeads count heads
  | some head :: heads => if count ≤ head then .error .headRange else checkHeads count heads

def checkCandidates (strings : Nat) : Nat → List Candidate → Except Fault Unit
  | _, [] => .ok ()
  | index, candidate :: candidates =>
    if strings ≤ candidate.string then .error (.unknownString index)
    else
      match candidate.next with
      | some next =>
        if index ≤ next then .error (.forwardLink index)
        else checkCandidates strings (index + 1) candidates
      | none => checkCandidates strings (index + 1) candidates

/-- Decides whether tables are safe to follow: all indices lie inside the tables, transitions form a
tree, failure states lead back to the first state, and lists end. -/
def check (tables : Tables) : Except Fault Unit := do
  if tables.cells.size < stateSpan then throw .shortTable
  if tables.heads.size ≠ tables.cells.size then throw .sizesDiffer
  checkCells (tables.cells.size - stateSpan) 0 tables.cells.toList
  let found ← tables.reach
  (found.order.toList.drop 1).forM (tables.checkFailure found)
  checkHeads tables.candidates.size tables.heads.toList
  checkCandidates tables.strings 0 tables.candidates.toList

end Tables

end ByteScan
