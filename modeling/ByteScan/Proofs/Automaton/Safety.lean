import ByteScan.Proofs.Strict.Searching

/-!
# What tables are safe to follow

`Tables.Safe` says, without any search, which tables are safe: their indices lie inside them, the
transitions from the first state on form a tree, failure states are nearer to the first state, and
lists of candidates end. The check of tables accepts these and no others, and an automaton made of
them takes every byte from every state to a state.
-/

namespace ByteScan

namespace Tables

variable {tables : Tables} {cursor : Nat} {found after : Survey}

def Leads (tables : Tables) (state label child : Nat) : Prop :=
  label ∈ labels ∧ tables.transition? state label = some child

/-- So many transitions lead from the first state to a state. -/
inductive ReachedIn (tables : Tables) : Nat → Nat → Prop where
  | root : ReachedIn tables 0 0
  | next {depth state label child : Nat} (reached : ReachedIn tables depth state)
      (leads : tables.Leads state label child) : ReachedIn tables (depth + 1) child

def Reachable (tables : Tables) (state : Nat) : Prop := ∃ depth, tables.ReachedIn depth state

/-- The transitions from the first state on form a tree. -/
structure Branching (tables : Tables) : Prop where
  /-- None of them leads back to the first state. -/
  rooted : ∀ state label, tables.Reachable state → ¬tables.Leads state label 0
  /-- No two of them lead to the same state. -/
  once : ∀ left label right other child, tables.Reachable left → tables.Reachable right →
    tables.Leads left label child → tables.Leads right other child → left = right ∧ label = other

/-- Tables that are safe to follow. -/
structure Safe (tables : Tables) : Prop where
  long : stateSpan ≤ tables.cells.size
  sizes : tables.heads.size = tables.cells.size
  targets : ∀ cell ∈ tables.cells.toList, cell.target ≤ tables.cells.size - stateSpan
  branching : tables.Branching
  /-- The failure state of every state but the first is a state nearer to the first. -/
  nearer : ∀ depth state, tables.ReachedIn depth state → state ≠ 0 →
    ∃ less < depth, tables.ReachedIn less (tables.failureOf state)
  heads : ∀ head, some head ∈ tables.heads.toList → head < tables.candidates.size
  strings : ∀ candidate ∈ tables.candidates.toList, candidate.string < tables.strings
  /-- The list of a candidate goes on with an earlier one. -/
  back : ∀ (index : Nat) candidate, tables.candidates[index]? = some candidate →
    ∀ next, candidate.next = some next → next < index

/-! ## Trees -/

theorem Branching.depth_unique (branching : tables.Branching) {left right state : Nat}
    (first : tables.ReachedIn left state) (second : tables.ReachedIn right state) :
    left = right := by
  induction first generalizing right with
  | root =>
      cases second with
      | root => rfl
      | next reached leads => exact absurd leads (branching.rooted _ _ ⟨_, reached⟩)
  | @next depth state label child reached leads ih =>
      cases second with
      | root => exact absurd leads (branching.rooted _ _ ⟨_, reached⟩)
      | @next depth' state' label' _ reached' leads' =>
          obtain ⟨rfl, -⟩ :=
            branching.once _ _ _ _ _ ⟨_, reached⟩ ⟨_, reached'⟩ leads leads'
          rw [ih reached']

def children (tables : Tables) (state : Nat) : List Nat :=
  labels.filterMap (tables.transition? state)

theorem mem_children {state child : Nat} :
    child ∈ tables.children state ↔ ∃ label, tables.Leads state label child := by
  simp only [children, List.mem_filterMap, Leads]

theorem filterMap_cons_append (choose : α → Option β) (first : α) (rest : List α) :
    (first :: rest).filterMap choose = (choose first).toList ++ rest.filterMap choose := by
  simp only [List.filterMap_eq_flatMap_toList, List.flatMap_cons]

theorem labels_nodup : labels.Nodup :=
  List.Nodup.map (fun _ _ same => Nat.succ.inj same) List.nodup_range

theorem children_nodup_iff {state : Nat} :
    (tables.children state).Nodup ↔ ∀ label other child,
      tables.Leads state label child → tables.Leads state other child → label = other := by
  rw [children, List.Nodup, List.pairwise_filterMap]
  constructor
  · intro apart label other child leads leads'
    by_contra differ
    have symmetric : Std.Symm fun left right => ∀ x, tables.transition? state left = some x →
        ∀ y, tables.transition? state right = some y → x ≠ y :=
      ⟨fun _ _ held x isX y isY same => held y isY x isX same.symm⟩
    exact apart.forall leads.1 leads'.1 differ child leads.2 child leads'.2 rfl
  · intro single
    refine labels_nodup.imp_of_mem fun {label other} listed listed' differ x isX y isY same => ?_
    subst same
    exact differ (single label other x ⟨listed, isX⟩ ⟨listed', isY⟩)

/-! ## Visiting states -/

section

variable (long : stateSpan ≤ tables.cells.size)
  (targets : ∀ cell ∈ tables.cells.toList, cell.target ≤ tables.cells.size - stateSpan)
include long targets

theorem target_le_of_leads {state label child : Nat}
    (inside : state + stateSpan ≤ tables.cells.size) (leads : tables.Leads state label child) :
    child + stateSpan ≤ tables.cells.size := by
  obtain ⟨listed, isChild⟩ := leads
  have small := label_lt listed
  have isCell : tables.cells[state + label]? = some tables.cells[state + label] :=
    Array.getElem?_eq_getElem (by omega)
  rw [transition?, cell, Array.getD_eq_getD_getElem?, isCell, Option.getD_some] at isChild
  split at isChild
  · cases isChild
    exact target_inside long targets isCell
  · cases isChild

theorem Explored.visit_ok (explored : tables.Explored cursor found) {state depth label : Nat}
    (inside : state + stateSpan ≤ tables.cells.size) (listed : label ∈ labels)
    (distinct : (found.order.toList ++ (tables.transition? state label).toList).Nodup) :
    ∃ after, tables.visit state depth found label = .ok after := by
  rw [Tables.visit]
  cases isChild : tables.transition? state label with
  | none => exact ⟨found, rfl⟩
  | some child =>
      have leads := target_le_of_leads long targets inside ⟨listed, isChild⟩
      have bound : child < found.depths.size := by
        have positive : 0 < stateSpan := by decide
        rw [explored.size]
        omega
      rw [isChild, Option.toList_some, ← List.concat_eq_append, List.nodup_concat,
        Array.mem_toList_iff, explored.marked child, Array.getElem?_eq_getElem bound] at distinct
      simp only [Array.getElem?_eq_getElem bound]
      cases mark : found.depths[child] with
      | none => exact ⟨_, rfl⟩
      | some other => exact absurd ⟨other, congrArg some mark⟩ distinct.1

end

theorem order_of_visit {state depth label : Nat}
    (visited : tables.visit state depth found label = .ok after) :
    after.order.toList = found.order.toList ++ (tables.transition? state label).toList := by
  rw [Tables.visit] at visited
  cases isChild : tables.transition? state label with
  | none =>
      rw [isChild] at visited
      cases visited
      rw [Option.toList_none, List.append_nil]
  | some child =>
      simp only [isChild] at visited
      split at visited
      · cases visited
        rw [Array.toList_push, Option.toList_some]
      · cases visited

theorem depth_of_visit {state depth label : Nat}
    (visited : tables.visit state depth found label = .ok after) {other mark : Nat}
    (isMarked : after.depths[other]? = some (some mark)) :
    found.depths[other]? = some (some mark) ∨
      mark = depth + 1 ∧ tables.transition? state label = some other := by
  rw [Tables.visit] at visited
  cases isChild : tables.transition? state label with
  | none =>
      rw [isChild] at visited
      cases visited
      exact Or.inl isMarked
  | some child =>
      simp only [isChild] at visited
      split at visited
      · rename_i isNew
        cases visited
        by_cases same : child = other
        · subst same
          have bound := (Array.getElem?_eq_some_iff.mp isNew).1
          rw [Array.getElem?_setIfInBounds_self_of_lt bound] at isMarked
          cases isMarked
          exact Or.inr ⟨rfl, rfl⟩
        · rw [Array.getElem?_setIfInBounds_ne same] at isMarked
          exact Or.inl isMarked
      · cases visited

/-! ## Visiting a state for some labels -/

theorem order_of_visitAll {given : List Nat} {state depth : Nat}
    (visited : given.foldlM (tables.visit state depth) found = .ok after) :
    after.order.toList = found.order.toList ++ given.filterMap (tables.transition? state) := by
  induction given generalizing found with
  | nil =>
      cases visited
      rw [List.filterMap_nil, List.append_nil]
  | cons label given ih =>
      rw [List.foldlM_cons] at visited
      obtain ⟨middle, first, rest⟩ := bind_eq_ok visited
      rw [ih rest, order_of_visit first, List.append_assoc, filterMap_cons_append]

theorem depth_of_visitAll {given : List Nat} {state depth : Nat}
    (visited : given.foldlM (tables.visit state depth) found = .ok after) {other mark : Nat}
    (isMarked : after.depths[other]? = some (some mark)) :
    found.depths[other]? = some (some mark) ∨
      mark = depth + 1 ∧ ∃ label ∈ given, tables.transition? state label = some other := by
  induction given generalizing found with
  | nil =>
      cases visited
      exact Or.inl isMarked
  | cons label given ih =>
      rw [List.foldlM_cons] at visited
      obtain ⟨middle, first, rest⟩ := bind_eq_ok visited
      rcases ih rest with before | ⟨next, later, listed, leads⟩
      · refine (depth_of_visit first before).imp_right ?_
        rintro ⟨next, leads⟩
        exact ⟨next, label, List.mem_cons_self .., leads⟩
      · exact Or.inr ⟨next, later, List.mem_cons_of_mem _ listed, leads⟩

section

variable (long : stateSpan ≤ tables.cells.size)
  (targets : ∀ cell ∈ tables.cells.toList, cell.target ≤ tables.cells.size - stateSpan)
include long targets

theorem Explored.visitAll_ok {given : List Nat} (explored : tables.Explored cursor found)
    {state depth : Nat} (inside : state + stateSpan ≤ tables.cells.size)
    (near : depth < found.order.size) (listed : ∀ label ∈ given, label ∈ labels)
    (distinct : (found.order.toList ++ given.filterMap (tables.transition? state)).Nodup) :
    ∃ after, given.foldlM (tables.visit state depth) found = .ok after := by
  induction given generalizing found with
  | nil => exact ⟨found, rfl⟩
  | cons label given ih =>
      obtain ⟨isListed, restListed⟩ := List.forall_mem_cons.mp listed
      rw [filterMap_cons_append, ← List.append_assoc] at distinct
      obtain ⟨middle, first⟩ := explored.visit_ok long targets inside isListed
        (List.nodup_append.mp distinct).1
      rw [← order_of_visit first] at distinct
      obtain ⟨_, visited⟩ := explored.visit long targets inside near isListed
      obtain ⟨explored', grown, _⟩ := visited middle first
      obtain ⟨after, rest⟩ :=
        ih explored' (Nat.lt_of_lt_of_le near grown.size_le) restListed distinct
      refine ⟨after, ?_⟩
      rw [List.foldlM_cons, first]
      exact rest

end

/-! ## The search for states -/

/-- What is known of the states that were found when the first `cursor` of them have been visited:
the first state comes first, and then those that the visited states lead to. -/
structure Traced (tables : Tables) (cursor : Nat) (found : Survey) : Prop
    extends Explored tables cursor found where
  order : found.order.toList = 0 :: (found.order.toList.take cursor).flatMap tables.children
  depth : ∀ state depth, found.depths[state]? = some (some depth) → tables.ReachedIn depth state

namespace Traced

variable (traced : tables.Traced cursor found)
include traced

theorem reachable {state : Nat} (member : state ∈ found.order) : tables.Reachable state := by
  obtain ⟨depth, isMarked⟩ := (traced.marked state).mp member
  exact ⟨depth, traced.depth state depth isMarked⟩

/-- In a tree no state is found twice when another one is visited. -/
theorem distinct (branching : tables.Branching) {state : Nat}
    (current : found.order[cursor]? = some state) :
    (found.order.toList ++ tables.children state).Nodup := by
  have reached := traced.reachable (Array.mem_of_getElem? current)
  refine List.nodup_append.mpr ⟨traced.nodup, ?_, ?_⟩
  · rw [children_nodup_iff]
    intro label other child leads leads'
    exact (branching.once _ _ _ _ _ reached reached leads leads').2
  · rintro child before _ isChild rfl
    obtain ⟨label, leads⟩ := mem_children.mp isChild
    rw [traced.order, List.mem_cons, List.mem_flatMap] at before
    rcases before with rfl | ⟨other, early, isOther⟩
    · exact branching.rooted state label reached leads
    · obtain ⟨otherLabel, leads'⟩ := mem_children.mp isOther
      have otherReached := traced.reachable (Array.mem_toList_iff.mp (List.mem_of_mem_take early))
      obtain ⟨rfl, -⟩ := branching.once _ _ _ _ _ otherReached reached leads' leads
      -- The state comes after those that have been visited.
      rw [← Array.getElem?_toList] at current
      obtain ⟨bound, isState⟩ := List.getElem?_eq_some_iff.mp current
      have apart := traced.nodup
      rw [← List.take_append_drop cursor found.order.toList, List.drop_eq_getElem_cons bound,
        isState] at apart
      exact (List.nodup_append.mp apart).2.2 _ early _ (List.mem_cons_self ..) rfl

theorem advance (long : stateSpan ≤ tables.cells.size)
    (targets : ∀ cell ∈ tables.cells.toList, cell.target ≤ tables.cells.size - stateSpan)
    {state depth : Nat} (current : found.order[cursor]? = some state)
    (isMarked : found.depths[state]? = some (some depth))
    (visited : labels.foldlM (tables.visit state depth) found = .ok after) :
    tables.Traced (cursor + 1) after := by
  have member := Array.mem_of_getElem? current
  obtain ⟨_, outcome⟩ := traced.visitAll long targets (traced.inside state member)
    (traced.near state depth isMarked) fun _ => id
  obtain ⟨explored, grown, all⟩ := outcome after visited
  have whole := order_of_visitAll visited
  refine ⟨traced.toExplored.advance current explored grown all, ?_, ?_⟩
  · -- The state adds its children to what the states before it have found.
    rw [← Array.getElem?_toList] at current
    have bound := (List.getElem?_eq_some_iff.mp current).1
    rw [whole, List.take_append_of_le_length bound, List.take_add_one, current,
      List.flatMap_append, ← List.cons_append, ← traced.order]
    simp only [Option.toList_some, List.flatMap_singleton, children]
  · intro other mark isMarked'
    rcases depth_of_visitAll visited isMarked' with before | ⟨rfl, label, listed, leads⟩
    · exact traced.depth other mark before
    · exact .next (traced.depth state depth isMarked) ⟨listed, leads⟩

/-- In a tree the search succeeds, and where it succeeds it has visited all states that it found. -/
theorem survey (long : stateSpan ≤ tables.cells.size)
    (targets : ∀ cell ∈ tables.cells.toList, cell.target ≤ tables.cells.size - stateSpan)
    (left : Nat) (enough : tables.cells.size ≤ cursor + left) :
    (tables.Branching → ∃ after, tables.survey left cursor found = .ok after) ∧
      ∀ after, tables.survey left cursor found = .ok after →
        tables.Traced after.order.size after := by
  -- There are fewer states than cells, so all have been visited when nothing is left.
  have few := traced.size_order_lt long
  have within := traced.within
  have positive : 1 < stateSpan := by decide
  induction left generalizing cursor found with
  | zero =>
      have same : cursor = found.order.size := by omega
      refine ⟨fun _ => ⟨found, rfl⟩, ?_⟩
      rintro after ⟨⟩
      rwa [← same]
  | succ left ih =>
      simp only [Tables.survey]
      cases current : found.order[cursor]? with
      | none =>
          have same := Nat.le_antisymm within (Array.getElem?_eq_none_iff.mp current)
          refine ⟨fun _ => ⟨found, rfl⟩, ?_⟩
          rintro after ⟨⟩
          rwa [← same]
      | some state =>
          have member := Array.mem_of_getElem? current
          obtain ⟨depth, isMarked⟩ := (traced.marked state).mp member
          have near := traced.near state depth isMarked
          have later (middle : Survey)
              (ended : labels.foldlM (tables.visit state depth) found = .ok middle) :=
            have advanced := traced.advance long targets current isMarked ended
            ih advanced (by omega) (advanced.size_order_lt long) advanced.within
          simp only [isMarked, Option.getD_some]
          constructor
          · intro branching
            obtain ⟨middle, ended⟩ := traced.visitAll_ok long targets (traced.inside state member)
              near (fun _ => id) (traced.distinct branching current)
            obtain ⟨after, rest⟩ := (later middle ended).1 branching
            refine ⟨after, ?_⟩
            rw [ended]
            exact rest
          · intro after whole
            obtain ⟨middle, ended, rest⟩ := bind_eq_ok whole
            exact (later middle ended).2 after rest

end Traced

namespace Traced

variable (traced : tables.Traced found.order.size found)
include traced

/-- When all states that were found have been visited, no others can be reached. -/
theorem mem_iff {state : Nat} : state ∈ found.order ↔ tables.Reachable state := by
  constructor
  · exact traced.reachable
  · rintro ⟨depth, reached⟩
    induction reached with
    | root => exact Array.mem_of_getElem? traced.root
    | @next _ state label child _ leads ih =>
        obtain ⟨place, bound, isState⟩ := Array.getElem_of_mem ih
        refine traced.next place bound state ?_ label leads.1 child leads.2
        rw [Array.getElem?_eq_getElem bound, isState]

theorem order_eq : found.order.toList = 0 :: found.order.toList.flatMap tables.children := by
  have whole := traced.order
  rwa [← Array.length_toList, List.take_length] at whole

/-- No state was found twice, so the transitions form a tree. -/
theorem branching : tables.Branching := by
  -- The children of all states stand one after another, and nothing stands there twice.
  have distinct := traced.nodup
  rw [traced.order_eq, List.nodup_cons, List.nodup_flatMap] at distinct
  obtain ⟨rooted, single, apart⟩ := distinct
  constructor
  · intro state label reached leads
    have member := Array.mem_toList_iff.mpr (traced.mem_iff.mpr reached)
    exact rooted (List.mem_flatMap.mpr ⟨state, member, mem_children.mpr ⟨label, leads⟩⟩)
  · intro left label right other child reached reached' leads leads'
    have member := Array.mem_toList_iff.mpr (traced.mem_iff.mpr reached)
    have member' := Array.mem_toList_iff.mpr (traced.mem_iff.mpr reached')
    have same : left = right := by
      by_contra differ
      have symmetric : Std.Symm (Function.onFun List.Disjoint tables.children) :=
        ⟨fun _ _ held _ inLeft inRight => held inRight inLeft⟩
      exact apart.forall member member' differ (mem_children.mpr ⟨label, leads⟩)
        (mem_children.mpr ⟨other, leads'⟩)
    subst same
    exact ⟨rfl, children_nodup_iff.mp (single left member) label other child leads leads'⟩

theorem depth_iff {state depth : Nat} :
    found.depths[state]? = some (some depth) ↔ tables.ReachedIn depth state := by
  refine ⟨traced.depth state depth, fun reached => ?_⟩
  obtain ⟨mark, isMarked⟩ := (traced.marked state).mp (traced.mem_iff.mpr ⟨depth, reached⟩)
  rw [traced.branching.depth_unique reached (traced.depth state mark isMarked)]
  exact isMarked

end Traced

theorem traced_start (long : stateSpan ≤ tables.cells.size) :
    tables.Traced 0
      ⟨(Array.replicate tables.cells.size none).setIfInBounds 0 (some 0), #[0]⟩ := by
  refine ⟨explored_start long, rfl, ?_⟩
  intro state depth isMarked
  rw [Array.getElem?_setIfInBounds] at isMarked
  split at isMarked
  · rename_i same
    subst same
    split at isMarked
    · cases isMarked
      exact .root
    · cases isMarked
  · rw [Array.getElem?_replicate] at isMarked
    split at isMarked <;> cases isMarked

/-- The search for states succeeds if the transitions form a tree, and only then. -/
theorem reach_ok_iff (long : stateSpan ≤ tables.cells.size)
    (targets : ∀ cell ∈ tables.cells.toList, cell.target ≤ tables.cells.size - stateSpan) :
    (∃ found, tables.reach = .ok found) ↔ tables.Branching := by
  obtain ⟨succeeds, traced⟩ := (traced_start long).survey long targets tables.cells.size (by omega)
  refine ⟨?_, succeeds⟩
  rintro ⟨found, reached⟩
  exact (traced found reached).branching

theorem traced_of_reach (long : stateSpan ≤ tables.cells.size)
    (targets : ∀ cell ∈ tables.cells.toList, cell.target ≤ tables.cells.size - stateSpan)
    (reached : tables.reach = .ok found) : tables.Traced found.order.size found :=
  ((traced_start long).survey long targets tables.cells.size (by omega)).2 found reached

/-! ## The whole check -/

theorem linkedBack_iff :
    LinkedBack 0 tables.candidates.toList ↔
      ∀ (index : Nat) candidate, tables.candidates[index]? = some candidate →
        ∀ next, candidate.next = some next → next < index := by
  simp only [LinkedBack, Array.getElem?_toList, Nat.zero_add]

theorem check_ok_iff : tables.check = .ok () ↔ tables.Safe := by
  constructor
  · intro passed
    obtain ⟨found, passed⟩ := exists_passed passed
    have traced := traced_of_reach passed.long passed.targets passed.reached
    refine ⟨passed.long, passed.sizes, passed.targets, traced.branching, ?_, passed.heads,
      passed.strings, linkedBack_iff.mp passed.back⟩
    intro depth state reached other
    have later := traced.mem_drop_iff.mpr ⟨traced.mem_iff.mpr ⟨depth, reached⟩, other⟩
    obtain ⟨less, mark, failure, own, nearer⟩ :=
      checkFailure_ok_iff.mp (passed.failures state later)
    rw [traced.depth_iff] at failure own
    rw [traced.branching.depth_unique own reached] at nearer
    exact ⟨less, nearer, failure⟩
  · intro safe
    obtain ⟨found, reached⟩ := (reach_ok_iff safe.long safe.targets).mpr safe.branching
    have traced := traced_of_reach safe.long safe.targets reached
    rw [check_eq safe.long safe.sizes safe.targets reached ?_ safe.heads]
    · exact checkCandidates_eq_ok _ _ _ (linkedBack_iff.mpr safe.back) safe.strings
    · intro state later
      obtain ⟨member, other⟩ := traced.mem_drop_iff.mp later
      obtain ⟨depth, own⟩ := (traced.marked state).mp member
      obtain ⟨less, nearer, failure⟩ := safe.nearer depth state (traced.depth state depth own) other
      exact checkFailure_ok_iff.mpr ⟨less, depth, traced.depth_iff.mpr failure, own, nearer⟩

end Tables

namespace Automaton

/-- Exactly the safe tables make an automaton. Whatever the tables hold, the check ends and reaches for
nothing beyond them, also with depths in words if not every word can be a state. From every state of
an automaton, taking a byte ends inside the tables and leads to a state. -/
theorem ofTables_exact (tables : Tables) :
    ((∃ automaton, ofTables tables = .ok automaton) ↔ tables.Safe) ∧
      Strict.checkBy (fun depth => some (depth + 1)) tables = some tables.check ∧
      (tables.cells.size < UInt32.size + (stateSpan - 1) →
        Strict.check tables = some tables.check) ∧
      ∀ automaton, ofTables tables = .ok automaton →
        automaton.toTables = tables ∧
          ∀ state, tables.Reachable state → ∀ byte,
            Strict.step automaton state byte = some (automaton.step state byte) ∧
              tables.Reachable (automaton.step state byte) := by
  refine ⟨?_, Tables.checkBy_strict fun _ _ => rfl, Tables.check_strict, ?_⟩
  · rw [← Tables.check_ok_iff]
    constructor
    · rintro ⟨automaton, built⟩
      rw [← toTables_of_ofTables built]
      exact automaton.checked
    · intro passed
      exact ⟨_, ofTables_eq_ok passed⟩
  · intro automaton built
    obtain rfl := toTables_of_ofTables built
    refine ⟨rfl, ?_⟩
    obtain ⟨found, states⟩ := exists_states automaton
    have traced := Tables.traced_of_reach states.long states.targets states.reached
    intro state reached byte
    rw [← traced.mem_iff] at reached ⊢
    exact states.step reached byte

end Automaton

end ByteScan
