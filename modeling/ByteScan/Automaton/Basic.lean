import ByteScan.Automaton.Table

/-!
# Automata

An automaton is some tables that are safe to follow. `step` takes one byte from a state to the next,
and `candidatesAt` lists what may have ended where a state is reached.
-/

namespace ByteScan

/-- Tables that are safe to follow. -/
structure Automaton extends Tables where
  checked : toTables.check = .ok ()

namespace Automaton

def ofTables (tables : Tables) : Except Tables.Fault Automaton :=
  match h : tables.check with
  | .ok () => .ok { toTables := tables, checked := h }
  | .error fault => .error fault

def root : Nat := 0

/-- Goes from failure state to failure state until one has a transition for a label, and takes it;
without one the search begins anew. The first argument bounds the failure states, which are ever
nearer to the first state. -/
def follow (automaton : Automaton) (label : Nat) : Nat → Nat → Nat
  | 0, _ => root
  | left + 1, state =>
    match automaton.transition? state label with
    | some next => next
    | none =>
      if state = root then root else automaton.follow label left (automaton.failureOf state)

def step (automaton : Automaton) (state : Nat) (byte : UInt8) : Nat :=
  automaton.follow (labelOf byte) automaton.cells.size state

def list (automaton : Automaton) : Nat → Option Nat → List Candidate
  | 0, _ | _, none => []
  | left + 1, some index =>
    match automaton.candidates[index]? with
    | some candidate => candidate :: automaton.list left candidate.next
    | none => []

def head? (automaton : Automaton) (state : Nat) : Option Nat := automaton.heads.getD state none

def candidatesAt (automaton : Automaton) (state : Nat) : List Candidate :=
  automaton.list automaton.candidates.size (automaton.head? state)

/-- A cell at an index is a transition of the state that lies its label before it. -/
def isTransition (index : Nat) (cell : Cell) : Bool := cell.key ≠ 0 && cell.key ≤ index

def stateCount (automaton : Automaton) : Nat :=
  1 + (automaton.cells.toList.zipIdx.countP fun entry => isTransition entry.2 entry.1)

end Automaton

end ByteScan
