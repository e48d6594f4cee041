import ByteScan.Proofs.Strict.Tables

/-!
# Following tables without reaching beyond

The strict forms of taking a byte and of listing candidates have no result where a cell, a head or a
candidate lies beyond its table, or where failure links or lists do not end. An automaton is made of
tables that passed their check, so from the first state on this never happens.
-/

namespace ByteScan

namespace Strict

/-- Goes from failure state to failure state, which has to end. -/
def follow (automaton : Automaton) (label : Nat) : Nat → Nat → Option Nat
  | 0, _ => none
  | left + 1, state => do
    let cell ← automaton.cells[state + label]?
    if cell.bears label then some cell.target
    else if state = Automaton.root then some Automaton.root
    else do
      let own ← automaton.cells[state]?
      follow automaton label left own.target

def step (automaton : Automaton) (state : Nat) (byte : UInt8) : Option Nat :=
  follow automaton (labelOf byte) automaton.cells.size state

def list (automaton : Automaton) : Nat → Option Nat → Option (List Candidate)
  | _, none => some []
  | 0, some _ => none
  | left + 1, some index => do
    let candidate ← automaton.candidates[index]?
    let others ← list automaton left candidate.next
    some (candidate :: others)

def candidatesAt (automaton : Automaton) (state : Nat) : Option (List Candidate) := do
  let head ← automaton.heads[state]?
  list automaton automaton.candidates.size head

end Strict

namespace Automaton

variable {automaton : Automaton} {found : Tables.Survey}

/-- The states of an automaton are those that are found from the first one. -/
structure States (automaton : Automaton) (found : Tables.Survey) : Prop
    extends Tables.Passed automaton.toTables found,
      Tables.Explored automaton.toTables found.order.size found

theorem exists_states (automaton : Automaton) : ∃ found, automaton.States found := by
  obtain ⟨found, passed⟩ := Tables.exists_passed automaton.checked
  obtain ⟨_, explored⟩ := Tables.reach_explored passed.long passed.targets
  exact ⟨found, passed, explored found passed.reached⟩

namespace States

variable (states : automaton.States found)
include states

theorem root_mem : root ∈ found.order := Array.mem_of_getElem? states.root

/-- The failure state of a state that is not the first one is nearer to it. -/
theorem nearer {state depth : Nat} (isMarked : found.depths[state]? = some (some depth))
    (other : state ≠ root) :
    ∃ nearer, found.depths[automaton.toTables.failureOf state]? = some (some nearer) ∧
      nearer < depth := by
  have later := states.mem_drop_iff.mpr ⟨(states.marked state).mpr ⟨depth, isMarked⟩, other⟩
  obtain ⟨nearer, mark, failure, own, isNearer⟩ :=
    Tables.checkFailure_ok_iff.mp (states.failures state later)
  rw [isMarked] at own
  cases own
  exact ⟨nearer, failure, isNearer⟩

/-- Going from failure state to failure state ends at a state before it leaves the table. -/
theorem follow {label : Nat} (listed : label ∈ Tables.labels) (left : Nat) {state depth : Nat}
    (isMarked : found.depths[state]? = some (some depth)) (enough : depth < left) :
    Strict.follow automaton label left state = some (automaton.follow label left state) ∧
      automaton.follow label left state ∈ found.order := by
  induction left generalizing state depth with
  | zero => omega
  | succ left ih =>
      have small := Tables.label_lt listed
      have member := (states.marked state).mpr ⟨depth, isMarked⟩
      have inside := states.inside state member
      have cellOf {index : Nat} (within : index < automaton.cells.size) :
          automaton.cells[index]? = some (automaton.cell index) := by
        rw [Tables.cell, Array.getD_eq_getD_getElem?, Array.getElem?_eq_getElem within,
          Option.getD_some]
      rw [Strict.follow, Automaton.follow, cellOf (by omega), Tables.transition?]
      simp only [Option.bind_eq_bind, Option.bind_some]
      by_cases bears : (automaton.cell (state + label)).bears label = true
      · have leads : automaton.transition? state label =
            some (automaton.cell (state + label)).target := by
          rw [Tables.transition?, if_pos bears]
        obtain ⟨place, isPlace, found'⟩ := Array.getElem_of_mem member
        rw [if_pos bears, if_pos bears]
        refine ⟨rfl, states.next place isPlace state ?_ label listed _ leads⟩
        rw [Array.getElem?_eq_getElem isPlace, found']
      · rw [if_neg bears, if_neg bears]
        by_cases isRoot : state = root
        · simp only [if_pos isRoot]
          exact ⟨trivial, states.root_mem⟩
        · obtain ⟨nearer, isMarked', isNearer⟩ := states.nearer isMarked isRoot
          simp only [if_neg isRoot]
          rw [cellOf (by omega), Option.bind_some]
          exact ih isMarked' (by omega)

theorem step {state : Nat} (member : state ∈ found.order) (byte : UInt8) :
    Strict.step automaton state byte = some (automaton.step state byte) ∧
      automaton.step state byte ∈ found.order := by
  obtain ⟨depth, isMarked⟩ := (states.marked state).mp member
  have near := states.near state depth isMarked
  have few := states.size_order_lt states.long
  have positive : 0 < stateSpan := by decide
  refine states.follow ?_ _ isMarked (by omega)
  rw [labels_eq]
  exact List.mem_map_of_mem (Trie.mem_allBytes byte)

/-- A list goes from candidate to earlier candidate and so ends. -/
theorem list (left : Nat) {head : Option Nat}
    (inside : ∀ index, head = some index → index < left ∧ index < automaton.candidates.size) :
    Strict.list automaton left head = some (automaton.list left head) := by
  induction left generalizing head with
  | zero =>
      cases head with
      | none => rfl
      | some index => exact absurd (inside index rfl).1 (Nat.not_lt_zero _)
  | succ left ih =>
      cases head with
      | none => rfl
      | some index =>
          obtain ⟨early, within⟩ := inside index rfl
          have isCandidate := Array.getElem?_eq_getElem within
          have later (next : Nat) (goesOn : automaton.candidates[index].next = some next) :
              next < left ∧ next < automaton.candidates.size := by
            have back := states.back index automaton.candidates[index]
              (by rw [Array.getElem?_toList, isCandidate]) next goesOn
            omega
          rw [Strict.list, Automaton.list, isCandidate]
          simp only [Option.bind_eq_bind, Option.bind_some]
          rw [ih later]
          rfl

theorem candidatesAt {state : Nat} (member : state ∈ found.order) :
    Strict.candidatesAt automaton state = some (automaton.candidatesAt state) := by
  have positive : 0 < stateSpan := by decide
  have inside := states.inside state member
  have within : state < automaton.heads.size := by
    rw [states.sizes]
    omega
  rw [Strict.candidatesAt, Automaton.candidatesAt, Automaton.head?, Array.getD_eq_getD_getElem?,
    Array.getElem?_eq_getElem within]
  simp only [Option.bind_eq_bind, Option.bind_some, Option.getD_some]
  apply states.list
  intro index isHead
  have listed : some index ∈ automaton.heads.toList := by
    rw [← isHead, Array.mem_toList_iff]
    exact Array.getElem_mem within
  have bound := states.heads index listed
  exact ⟨bound, bound⟩

end States

end Automaton

end ByteScan
