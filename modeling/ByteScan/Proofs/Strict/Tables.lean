import ByteScan.Proofs.Automaton.Passing
import ByteScan.Proofs.Strict.Results
import Mathlib.Data.List.Nodup

/-!
# Checking tables without reaching beyond

The strict form of the check of tables has no result where a cell or a depth lies beyond the tables,
where a depth does not fit in its word, or where the search for states does not end. Whatever the
tables hold, it does what the check does: `check_strict`. How depths are counted is left open in
`checkBy`, which does so however large the tables are: `checkBy_strict`. What the search for states
finds is `Explored`.
-/

namespace ByteScan

namespace Strict

open Tables

/-- The next depth, which has to be smaller than the number that stands for no depth. -/
def deeper (depth : Nat) : Option Nat :=
  if depth + 1 < UInt32.size - 1 then some (depth + 1) else none

def checkFailure (tables : Tables) (found : Survey) (state : Nat) : ExceptT Fault Option Unit := do
  let cell ← demand tables.cells[state]?
  let nearer ← demand found.depths[cell.target]?
  let depth ← demand found.depths[state]?
  match nearer, depth with
  | some nearer, some depth => if nearer < depth then pure () else throw (.failureLink state)
  | _, _ => throw (.failureLink state)

section

variable (count : Nat → Option Nat)

def visitBy (tables : Tables) (state depth : Nat) (survey : Survey) (label : Nat) :
    ExceptT Fault Option Survey := do
  let cell ← demand tables.cells[state + label]?
  if cell.bears label then do
    let seen ← demand survey.depths[cell.target]?
    match seen with
    | some _ => throw (.reachedTwice cell.target)
    | none => do
      let depth ← demand (count depth)
      pure ⟨survey.depths.setIfInBounds cell.target (some depth), survey.order.push cell.target⟩
  else pure survey

/-- Visits the states that were found; it has to be at an end when nothing is left of the first
argument. -/
def surveyBy (tables : Tables) : Nat → Nat → Survey → ExceptT Fault Option Survey
  | 0, cursor, found => if found.order.size ≤ cursor then pure found else none
  | left + 1, cursor, found =>
    match found.order[cursor]? with
    | none => pure found
    | some state => do
      let marked ← demand found.depths[state]?
      let depth ← demand marked
      let found ← labels.foldlM (visitBy count tables state depth) found
      surveyBy tables left (cursor + 1) found

def reachBy (tables : Tables) : ExceptT Fault Option Survey :=
  surveyBy count tables tables.cells.size 0
    ⟨(Array.replicate tables.cells.size none).setIfInBounds 0 (some 0), #[0]⟩

/-- The strict check of tables, where `count` gives the depth after a depth. -/
def checkBy (tables : Tables) : ExceptT Fault Option Unit := do
  if tables.cells.size < stateSpan then throw .shortTable
  if tables.heads.size ≠ tables.cells.size then throw .sizesDiffer
  (checkCells (tables.cells.size - stateSpan) 0 tables.cells.toList : Except Fault Unit)
  let found ← reachBy count tables
  (found.order.toList.drop 1).forM (checkFailure tables found)
  (checkHeads tables.candidates.size tables.heads.toList : Except Fault Unit)
  (checkCandidates tables.strings 0 tables.candidates.toList : Except Fault Unit)

def Counts (tables : Tables) : Prop :=
  ∀ depth, depth + stateSpan < tables.cells.size → count depth = some (depth + 1)

end

def check (tables : Tables) : ExceptT Fault Option Unit := checkBy deeper tables

end Strict

/-! ## What is found -/

namespace Tables

variable {tables : Tables} {cursor : Nat} {found : Survey}

/-- What is known of the states that were found when the first `cursor` of them have been visited,
whatever the tables hold. -/
structure Explored (tables : Tables) (cursor : Nat) (found : Survey) : Prop where
  size : found.depths.size = tables.cells.size
  root : found.order[0]? = some 0
  nodup : found.order.toList.Nodup
  marked : ∀ state, state ∈ found.order ↔ ∃ depth, found.depths[state]? = some (some depth)
  /-- Each state is nearer to the first one than there are states. -/
  near : ∀ (state : Nat) depth, found.depths[state]? = some (some depth) → depth < found.order.size
  /-- The reach of each state lies inside the table. -/
  inside : ∀ state ∈ found.order, state + stateSpan ≤ tables.cells.size
  within : cursor ≤ found.order.size
  /-- Where a state that has been visited leads to has been found. -/
  next : ∀ place < cursor, ∀ state, found.order[place]? = some state → ∀ label ∈ labels, ∀ child,
    tables.transition? state label = some child → child ∈ found.order

def Grown (before after : Survey) : Prop := before.order.toList <+: after.order.toList

theorem Grown.mem {before after : Survey} (grown : Grown before after) {state : Nat}
    (member : state ∈ before.order) : state ∈ after.order :=
  Array.mem_toList_iff.mp (List.IsPrefix.mem (Array.mem_toList_iff.mpr member) grown)

theorem Grown.size_le {before after : Survey} (grown : Grown before after) :
    before.order.size ≤ after.order.size := by
  have longer := List.IsPrefix.length_le grown
  rwa [Array.length_toList, Array.length_toList] at longer

theorem length_le_of_nodup {items : List Nat} {bound : Nat} (distinct : items.Nodup)
    (below : ∀ item ∈ items, item < bound) : items.length ≤ bound := by
  have inside : items ⊆ List.range bound := fun item member =>
    List.mem_range.mpr (below item member)
  have few := (List.Nodup.subperm distinct inside).length_le
  rwa [List.length_range] at few

theorem label_lt {label : Nat} (listed : label ∈ labels) : label < stateSpan := by
  obtain ⟨code, inRange, rfl⟩ := List.mem_map.mp listed
  rw [List.mem_range] at inRange
  unfold stateSpan
  omega

namespace Explored

variable (explored : tables.Explored cursor found)
include explored

theorem size_order_lt (long : stateSpan ≤ tables.cells.size) :
    found.order.size + stateSpan ≤ tables.cells.size + 1 := by
  have few : found.order.toList.length ≤ tables.cells.size + 1 - stateSpan := by
    refine length_le_of_nodup explored.nodup ?_
    intro state member
    have inside := explored.inside state (Array.mem_toList_iff.mp member)
    omega
  rw [Array.length_toList] at few
  unfold stateSpan at *
  omega

theorem mem_drop_iff {state : Nat} :
    state ∈ found.order.toList.drop 1 ↔ state ∈ found.order ∧ state ≠ 0 := by
  have first := explored.root
  have distinct := explored.nodup
  rw [← Array.getElem?_toList] at first
  rw [← Array.mem_toList_iff]
  cases order : found.order.toList with
  | nil =>
      rw [order] at first
      cases first
  | cons head rest =>
      rw [order] at first distinct
      cases first
      have absent := (List.nodup_cons.mp distinct).1
      rw [List.drop_one, List.tail_cons, List.mem_cons]
      constructor
      · intro member
        exact ⟨Or.inr member, fun same => absent (same ▸ member)⟩
      · rintro ⟨same | member, other⟩
        · exact absurd same other
        · exact member

theorem push {child depth : Nat} (isNew : found.depths[child]? = some none)
    (inside : child + stateSpan ≤ tables.cells.size) (near : depth < found.order.size) :
    tables.Explored cursor
      ⟨found.depths.setIfInBounds child (some (depth + 1)), found.order.push child⟩ := by
  obtain ⟨bound, _⟩ := Array.getElem?_eq_some_iff.mp isNew
  have absent : child ∉ found.order := by
    intro member
    obtain ⟨other, isMarked⟩ := (explored.marked child).mp member
    rw [isNew] at isMarked
    cases isMarked
  have self : (found.depths.setIfInBounds child (some (depth + 1)))[child]? =
      some (some (depth + 1)) := Array.getElem?_setIfInBounds_self_of_lt bound
  have others {state : Nat} (different : child ≠ state) :
      (found.depths.setIfInBounds child (some (depth + 1)))[state]? = found.depths[state]? :=
    Array.getElem?_setIfInBounds_ne different
  constructor
  case size => rw [Array.size_setIfInBounds, explored.size]
  case root =>
    rw [Array.getElem?_push_lt (by omega), ← Array.getElem?_eq_getElem, explored.root]
  case nodup =>
    rw [Array.toList_push, ← List.concat_eq_append]
    exact List.Nodup.concat (mt Array.mem_toList_iff.mp absent) explored.nodup
  case marked =>
    intro state
    rw [Array.mem_push]
    by_cases same : child = state
    · rw [← same, self]
      exact ⟨fun _ => ⟨_, rfl⟩, fun _ => Or.inr rfl⟩
    · rw [others same, explored.marked state]
      exact ⟨fun held => held.resolve_right (Ne.symm same), Or.inl⟩
  case near =>
    intro state other isMarked
    rw [Array.size_push]
    by_cases same : child = state
    · rw [← same, self] at isMarked
      cases isMarked
      omega
    · rw [others same] at isMarked
      exact Nat.lt_succ_of_lt (explored.near state other isMarked)
  case inside =>
    intro state member
    rcases Array.mem_push.mp member with earlier | isLast
    · exact explored.inside state earlier
    · rw [isLast]
      exact inside
  case within =>
    rw [Array.size_push]
    exact Nat.le_succ_of_le explored.within
  case next =>
    intro place early state found' label listed other leads
    have before := Nat.lt_of_lt_of_le early explored.within
    rw [Array.getElem?_push_lt before, ← Array.getElem?_eq_getElem] at found'
    exact Array.mem_push.mpr (Or.inl (explored.next place early state found' label listed other leads))

end Explored

/-! ## Visiting states -/

section

variable (long : stateSpan ≤ tables.cells.size)
  (targets : ∀ cell ∈ tables.cells.toList, cell.target ≤ tables.cells.size - stateSpan)
include long targets

theorem target_inside {index : Nat} {cell : Cell} (isCell : tables.cells[index]? = some cell) :
    cell.target + stateSpan ≤ tables.cells.size := by
  have target := targets cell (Array.mem_toList_iff.mpr (Array.mem_of_getElem? isCell))
  omega

theorem Explored.visit (explored : tables.Explored cursor found) {state depth label : Nat}
    (inside : state + stateSpan ≤ tables.cells.size) (near : depth < found.order.size)
    (listed : label ∈ labels) :
    (∀ count, Strict.Counts count tables → Strict.visitBy count tables state depth found label =
      some (tables.visit state depth found label)) ∧
    ∀ after, tables.visit state depth found label = .ok after →
      tables.Explored cursor after ∧ Grown found after ∧
        ∀ child, tables.transition? state label = some child → child ∈ after.order := by
  have small := label_lt listed
  have isCell : tables.cells[state + label]? = some tables.cells[state + label] :=
    Array.getElem?_eq_getElem (by omega)
  generalize tables.cells[state + label] = cell at isCell
  have sameCell : tables.cell (state + label) = cell := by
    rw [Tables.cell, Array.getD_eq_getD_getElem?, isCell, Option.getD_some]
  have child := target_inside long targets isCell
  simp only [Strict.visitBy, Tables.visit, Tables.transition?, sameCell, Strict.demand_bind isCell]
  by_cases bears : cell.bears label = true
  · have bound : cell.target < found.depths.size := by
      have positive : 0 < stateSpan := by decide
      rw [explored.size]
      omega
    simp only [if_pos bears, Strict.demand_bind (Array.getElem?_eq_getElem bound)]
    cases seen : found.depths[cell.target] with
    | some other =>
        simp only [Array.getElem?_eq_getElem bound, seen]
        refine ⟨fun _ _ => rfl, ?_⟩
        intro after impossible
        cases impossible
    | none =>
        have isNew : found.depths[cell.target]? = some none := by
          rw [Array.getElem?_eq_getElem bound, seen]
        have pushed := explored.push isNew child near
        simp only [isNew]
        constructor
        · intro count counts
          have few := pushed.size_order_lt long
          rw [Array.size_push] at few
          rw [Strict.demand_bind (counts depth (by omega))]
          rfl
        · rintro after ⟨⟩
          refine ⟨pushed, ?_, ?_⟩
          · rw [Grown, Array.toList_push]
            exact List.prefix_append _ _
          · rintro other ⟨⟩
            exact Array.mem_push_self
  · simp only [if_neg bears]
    refine ⟨fun _ _ => rfl, ?_⟩
    rintro after ⟨⟩
    refine ⟨explored, List.prefix_rfl, ?_⟩
    intro child leads
    cases leads

theorem Explored.visitAll {given : List Nat} (explored : tables.Explored cursor found)
    {state depth : Nat} (inside : state + stateSpan ≤ tables.cells.size)
    (near : depth < found.order.size) (listed : ∀ label ∈ given, label ∈ labels) :
    (∀ count, Strict.Counts count tables →
      given.foldlM (Strict.visitBy count tables state depth) found =
        some (given.foldlM (tables.visit state depth) found)) ∧
    ∀ after, given.foldlM (tables.visit state depth) found = .ok after →
      tables.Explored cursor after ∧ Grown found after ∧
        ∀ label ∈ given, ∀ child, tables.transition? state label = some child →
          child ∈ after.order := by
  induction given generalizing found with
  | nil =>
      refine ⟨fun _ _ => rfl, ?_⟩
      rintro after ⟨⟩
      exact ⟨explored, List.prefix_rfl, List.forall_mem_nil _⟩
  | cons label given ih =>
      obtain ⟨isListed, restListed⟩ := List.forall_mem_cons.mp listed
      obtain ⟨strict, visited⟩ := explored.visit long targets inside near isListed
      simp only [List.foldlM_cons]
      have later (middle : Survey) (ended : tables.visit state depth found label = .ok middle) :=
        have outcome := visited middle ended
        ih outcome.1 (Nat.lt_of_lt_of_le near outcome.2.1.size_le) restListed
      constructor
      · intro count counts
        exact Strict.bind_strict (strict count counts) fun middle ended =>
          (later middle ended).1 count counts
      · intro after whole
        obtain ⟨middle, ended, rest⟩ := bind_eq_ok whole
        obtain ⟨_, grown, first⟩ := visited middle ended
        obtain ⟨explored', grown', others⟩ := (later middle ended).2 after rest
        refine ⟨explored', grown.trans grown', List.forall_mem_cons.mpr ⟨?_, others⟩⟩
        intro child leads
        exact grown'.mem (first child leads)

omit long targets in
theorem Explored.advance (explored : tables.Explored cursor found) {after : Survey} {state : Nat}
    (current : found.order[cursor]? = some state) (explored' : tables.Explored cursor after)
    (grown : Grown found after)
    (all : ∀ label ∈ labels, ∀ child, tables.transition? state label = some child →
      child ∈ after.order) : tables.Explored (cursor + 1) after where
  size := explored'.size
  root := explored'.root
  nodup := explored'.nodup
  marked := explored'.marked
  near := explored'.near
  inside := explored'.inside
  within := by
    have longer := grown.size_le
    have within := (Array.getElem?_eq_some_iff.mp current).1
    omega
  next := by
    intro place early state' found' label listed child leads
    by_cases before : place < cursor
    · exact explored'.next place before state' found' label listed child leads
    · obtain rfl : place = cursor := by omega
      have within := (Array.getElem?_eq_some_iff.mp current).1
      obtain ⟨rest, whole⟩ := grown
      rw [← Array.getElem?_toList, ← whole, List.getElem?_append_left (by rwa [Array.length_toList]),
        Array.getElem?_toList, current] at found'
      cases found'
      exact all label listed child leads

/-- The search ends when all states have been visited that it has found. -/
theorem Explored.survey (left : Nat) (explored : tables.Explored cursor found)
    (enough : tables.cells.size ≤ cursor + left) :
    (∀ count, Strict.Counts count tables → Strict.surveyBy count tables left cursor found =
      some (tables.survey left cursor found)) ∧
    ∀ after, tables.survey left cursor found = .ok after →
      tables.Explored after.order.size after := by
  have few := explored.size_order_lt long
  have positive : 1 < stateSpan := by decide
  induction left generalizing cursor found with
  | zero =>
      have all : found.order.size ≤ cursor := by omega
      have same : cursor = found.order.size := Nat.le_antisymm explored.within all
      constructor
      · intro _ _
        rw [Strict.surveyBy, if_pos all]
        rfl
      · rintro after ⟨⟩
        rw [← same]
        exact explored
  | succ left ih =>
      simp only [Strict.surveyBy, Tables.survey]
      cases current : found.order[cursor]? with
      | none =>
          have all := Array.getElem?_eq_none_iff.mp current
          have same : cursor = found.order.size := Nat.le_antisymm explored.within all
          refine ⟨fun _ _ => rfl, ?_⟩
          rintro after ⟨⟩
          rw [← same]
          exact explored
      | some state =>
          have member := Array.mem_of_getElem? current
          obtain ⟨depth, isMarked⟩ := (explored.marked state).mp member
          obtain ⟨strict, visited⟩ := explored.visitAll long targets (explored.inside state member)
            (explored.near state depth isMarked) fun _ => id
          simp only [isMarked, Option.getD_some]
          have later (middle : Survey)
              (ended : labels.foldlM (tables.visit state depth) found = .ok middle) :=
            have reached := visited middle ended
            ih (explored.advance current reached.1 reached.2.1 reached.2.2) (by omega)
              (reached.1.size_order_lt long)
          constructor
          · intro count counts
            rw [Strict.demand_bind rfl, Strict.demand_bind rfl]
            exact Strict.bind_strict (strict count counts) fun middle ended =>
              (later middle ended).1 count counts
          · intro after whole
            obtain ⟨middle, ended, rest⟩ := bind_eq_ok whole
            exact (later middle ended).2 after rest

omit targets in
theorem explored_start :
    tables.Explored 0
      ⟨(Array.replicate tables.cells.size none).setIfInBounds 0 (some 0), #[0]⟩ := by
  have positive : 0 < stateSpan := by decide
  have self : ((Array.replicate tables.cells.size (none : Option Nat)).setIfInBounds 0
      (some 0))[0]? = some (some 0) := by
    apply Array.getElem?_setIfInBounds_self_of_lt
    rw [Array.size_replicate]
    omega
  have others {state : Nat} (different : 0 ≠ state) (depth : Nat) :
      ((Array.replicate tables.cells.size (none : Option Nat)).setIfInBounds 0
        (some 0))[state]? ≠ some (some depth) := by
    rw [Array.getElem?_setIfInBounds_ne different, Array.getElem?_replicate]
    split <;> exact nofun
  constructor
  case size => rw [Array.size_setIfInBounds, Array.size_replicate]
  case root => rfl
  case nodup => exact List.nodup_singleton 0
  case marked =>
    intro state
    rw [List.mem_toArray, List.mem_singleton]
    constructor
    · rintro rfl
      exact ⟨0, self⟩
    · rintro ⟨depth, isMarked⟩
      by_contra different
      exact others (Ne.symm different) depth isMarked
  case near =>
    intro state depth isMarked
    by_cases same : 0 = state
    · rw [← same, self] at isMarked
      cases isMarked
      exact Nat.one_pos
    · exact absurd isMarked (others same depth)
  case inside =>
    intro state member
    rw [List.mem_toArray, List.mem_singleton] at member
    omega
  case within => exact Nat.zero_le _
  case next => exact nofun

theorem reach_explored :
    (∀ count, Strict.Counts count tables →
      Strict.reachBy count tables = some tables.reach) ∧
      ∀ after, tables.reach = .ok after → tables.Explored after.order.size after :=
  (explored_start long).survey long targets _ (by omega)

end

/-! ## The whole check -/

section

variable (long : stateSpan ≤ tables.cells.size)
  (targets : ∀ cell ∈ tables.cells.toList, cell.target ≤ tables.cells.size - stateSpan)
include long targets

theorem Explored.checkFailure (explored : tables.Explored cursor found) {state : Nat}
    (member : state ∈ found.order) :
    Strict.checkFailure tables found state = some (tables.checkFailure found state) := by
  have positive : 0 < stateSpan := by decide
  have inside := explored.inside state member
  have isCell : tables.cells[state]? = some tables.cells[state] :=
    Array.getElem?_eq_getElem (by omega)
  generalize tables.cells[state] = cell at isCell
  have sameCell : tables.failureOf state = cell.target := by
    rw [failureOf, Tables.cell, Array.getD_eq_getD_getElem?, isCell, Option.getD_some]
  have failure := target_inside long targets isCell
  have bound : cell.target < found.depths.size := by
    rw [explored.size]
    omega
  obtain ⟨depth, own⟩ := (explored.marked state).mp member
  rw [Strict.checkFailure, Tables.checkFailure, Strict.demand_bind isCell, sameCell,
    Strict.demand_bind (Array.getElem?_eq_getElem bound), Strict.demand_bind own,
    Array.getElem?_eq_getElem bound, own]
  simp only [Option.getD_some]
  cases found.depths[cell.target] with
  | none => rfl
  | some nearer =>
      by_cases isNearer : nearer < depth
      · simp only [if_pos isNearer]
        rfl
      · simp only [if_neg isNearer]
        rfl

theorem Explored.checkFailures (explored : tables.Explored cursor found) {states : List Nat}
    (members : ∀ state ∈ states, state ∈ found.order) :
    states.forM (Strict.checkFailure tables found) =
      some (states.forM (tables.checkFailure found)) := by
  induction states with
  | nil => rfl
  | cons state states ih =>
      obtain ⟨member, others⟩ := List.forall_mem_cons.mp members
      exact Strict.bind_strict (explored.checkFailure long targets member) fun _ _ => ih others

end

/-- Whatever tables hold, they are checked without reaching beyond them. -/
theorem checkBy_strict {count : Nat → Option Nat} (counts : Strict.Counts count tables) :
    Strict.checkBy count tables = some tables.check := by
  unfold Strict.checkBy check
  by_cases short : tables.cells.size < stateSpan
  · rw [if_pos short, if_pos short]
    rfl
  · rw [if_neg short, if_neg short]
    by_cases differ : tables.heads.size ≠ tables.cells.size
    · rw [if_pos differ, if_pos differ]
      rfl
    · rw [if_neg differ, if_neg differ]
      refine Strict.bind_strict rfl fun _ passed => ?_
      have targets := below_of_checkCells passed
      have isLong := Nat.le_of_not_lt short
      obtain ⟨strict, explored⟩ := reach_explored isLong targets
      refine Strict.bind_strict (strict count counts) fun found reached => ?_
      have failures := (explored found reached).checkFailures isLong targets fun state member =>
        Array.mem_toList_iff.mp (List.mem_of_mem_drop (i := 1) member)
      refine Strict.bind_strict failures fun _ _ => ?_
      exact Strict.bind_strict rfl fun _ _ => rfl

/-- Depths fit in words unless there are as many states as there are words. -/
theorem check_strict (fits : tables.cells.size < UInt32.size + (stateSpan - 1)) :
    Strict.check tables = some tables.check := by
  refine checkBy_strict fun depth near => if_pos ?_
  unfold stateSpan at *
  omega

end Tables

end ByteScan
