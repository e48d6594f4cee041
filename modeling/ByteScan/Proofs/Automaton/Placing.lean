import ByteScan.Automaton.Building
import Mathlib.Data.List.Nodup
import Mathlib.Data.List.Pairwise

/-!
# First-fit placement

Each node is placed where its own cell and the cells of its transitions are still free, and takes
them. So no two nodes share a cell, though their reaches overlap; and as a node may always be placed
behind all cells that are taken, every node makes the table longer by at most one reach.
-/

namespace ByteScan.Placing

/-- The cells that a node takes at its position: its own and one for each transition. -/
def cellsOf (entry : TrieNode × Nat) : List Nat :=
  entry.2 :: entry.1.children.map fun byte => entry.2 + labelOf byte

theorem labelOf_pos (byte : UInt8) : 0 < labelOf byte := Nat.succ_pos _

theorem labelOf_lt_stateSpan (byte : UInt8) : labelOf byte < stateSpan := by
  have bound := byte.toNat_lt
  unfold labelOf stateSpan
  omega

theorem labelOf_injective {left right : UInt8} (same : labelOf left = labelOf right) :
    left = right :=
  UInt8.toNat_inj.mp (Nat.succ.inj same)

/-! ## Free cells -/

theorem isFree_of_size_le {used : Array Bool} {cell : Nat} (beyond : used.size ≤ cell) :
    isFree used cell = true := by
  simp [isFree, Array.getD_eq_getD_getElem?, Array.getElem?_eq_none beyond]

theorem size_occupy (used : Array Bool) (cell : Nat) :
    (occupy used cell).size = max used.size (cell + 1) := by
  simp only [occupy, Array.size_setIfInBounds, Array.size_append, Array.size_replicate]
  omega

theorem isFree_occupy (used : Array Bool) (taken cell : Nat) :
    isFree (occupy used taken) cell = (isFree used cell && cell != taken) := by
  simp only [isFree, Array.getD_eq_getD_getElem?, occupy, Array.getElem?_setIfInBounds,
    Array.size_append, Array.size_replicate]
  by_cases same : taken = cell
  · subst same
    have inside : taken < used.size + (taken + 1 - used.size) := by omega
    simp [inside]
  · by_cases inside : cell < used.size
    · simp [same, Ne.symm same, Array.getElem?_append_left inside]
    · have beyond : used.size ≤ cell := Nat.le_of_not_lt inside
      rw [if_neg same, Array.getElem?_append_right beyond, Array.getElem?_replicate,
        Array.getElem?_eq_none beyond]
      split <;> simp [Ne.symm same]

theorem isFree_foldl_occupy (cells : List Nat) (used : Array Bool) (cell : Nat) :
    isFree (cells.foldl occupy used) cell = true ↔
      isFree used cell = true ∧ cell ∉ cells := by
  induction cells generalizing used with
  | nil => simp
  | cons first rest ih =>
      rw [List.foldl_cons, ih, isFree_occupy]
      simp [and_assoc]

theorem size_foldl_occupy_le (cells : List Nat) (used : Array Bool) (bound : Nat)
    (before : used.size ≤ bound) (below : ∀ cell ∈ cells, cell < bound) :
    (cells.foldl occupy used).size ≤ bound := by
  induction cells generalizing used with
  | nil => exact before
  | cons first rest ih =>
      refine ih _ ?_ fun cell member => below cell (List.mem_cons_of_mem first member)
      have first_lt := below first (List.mem_cons_self ..)
      rw [size_occupy]
      omega

/-! ## The first fit -/

theorem fits_of_size_le {used : Array Bool} {position : Nat} (children : List UInt8)
    (beyond : used.size ≤ position) : fits used children position = true := by
  simp only [fits, Bool.and_eq_true, List.all_eq_true]
  exact ⟨isFree_of_size_le beyond, fun byte _ =>
    isFree_of_size_le (Nat.le_trans beyond (Nat.le_add_right ..))⟩

theorem fits_firstFit (used : Array Bool) (children : List UInt8) (position : Nat) :
    fits used children (firstFit used children position) = true := by
  fun_induction firstFit used children position with
  | case1 position inside fitting => exact fitting
  | case2 position inside other ih => exact ih
  | case3 position outside => exact fits_of_size_le children (Nat.le_of_not_lt outside)

theorem firstFit_le (used : Array Bool) (children : List UInt8) (position : Nat) :
    firstFit used children position ≤ max position used.size := by
  fun_induction firstFit used children position with
  | case1 position inside fitting => exact Nat.le_max_left ..
  | case2 position inside other ih => omega
  | case3 position outside => exact Nat.le_max_left ..

theorem isFree_of_fits {used : Array Bool} {node : TrieNode} {position : Nat}
    (fitting : fits used node.children position = true) :
    ∀ cell ∈ cellsOf (node, position), isFree used cell = true := by
  simp only [fits, Bool.and_eq_true, List.all_eq_true] at fitting
  intro cell member
  rcases List.mem_cons.mp member with rfl | isChild
  · exact fitting.1
  · obtain ⟨byte, inChildren, rfl⟩ := List.mem_map.mp isChild
    exact fitting.2 byte inChildren

theorem nextFree_le (used : Array Bool) (cell : Nat) : nextFree used cell ≤ max cell used.size := by
  fun_induction nextFree used cell with
  | case1 cell inside free => exact Nat.le_max_left ..
  | case2 cell inside other ih => omega
  | case3 cell outside => exact Nat.le_max_left ..

/-! ## All nodes -/

theorem placeAll_map_fst (occupancy : Occupancy) (nodes : List TrieNode) :
    (placeAll occupancy nodes).map Prod.fst = nodes := by
  induction nodes generalizing occupancy with
  | nil => rfl
  | cons node rest ih => simp only [placeAll, List.map_cons, ih]

theorem placeAll_isFree (occupancy : Occupancy) (nodes : List TrieNode) :
    ∀ entry ∈ placeAll occupancy nodes, ∀ cell ∈ cellsOf entry,
      isFree occupancy.used cell = true := by
  induction nodes generalizing occupancy with
  | nil => intro entry member; cases member
  | cons node rest ih =>
      intro entry member cell taken
      simp only [placeAll] at member
      rcases List.mem_cons.mp member with rfl | later
      · exact isFree_of_fits (fits_firstFit ..) cell taken
      · have free := ih _ entry later cell taken
        exact ((isFree_foldl_occupy _ _ cell).mp free).1

theorem cellsOf_nodup {entry : TrieNode × Nat} (distinct : entry.1.children.Nodup) :
    (cellsOf entry).Nodup := by
  refine List.nodup_cons.mpr ⟨?_, ?_⟩
  · intro member
    obtain ⟨byte, _, same⟩ := List.mem_map.mp member
    have positive := labelOf_pos byte
    omega
  · refine List.Nodup.map_on ?_ distinct
    intro left _ right _ same
    exact labelOf_injective (Nat.add_left_cancel same)

/-- No two nodes share a cell, and no node takes a cell twice. -/
theorem placeAll_nodup (occupancy : Occupancy) (nodes : List TrieNode)
    (distinct : ∀ node ∈ nodes, node.children.Nodup) :
    ((placeAll occupancy nodes).flatMap cellsOf).Nodup := by
  induction nodes generalizing occupancy with
  | nil => exact List.nodup_nil
  | cons node rest ih =>
      simp only [placeAll, List.flatMap_cons]
      refine List.nodup_append.mpr ⟨cellsOf_nodup (distinct node (List.mem_cons_self ..)),
        ih _ fun node member => distinct node (List.mem_cons_of_mem _ member), ?_⟩
      rintro cell taken other later rfl
      obtain ⟨entry, member, taken'⟩ := List.mem_flatMap.mp later
      have free := placeAll_isFree _ rest entry member cell taken'
      exact ((isFree_foldl_occupy _ _ cell).mp free).2 taken

theorem placeAll_le (occupancy : Occupancy) (nodes : List TrieNode) :
    ∀ entry ∈ placeAll occupancy nodes,
      entry.2 + stateSpan ≤
        max occupancy.firstFree occupancy.used.size + nodes.length * stateSpan := by
  induction nodes generalizing occupancy with
  | nil => intro entry member; cases member
  | cons node rest ih =>
      intro entry member
      have position_le := firstFit_le occupancy.used node.children occupancy.firstFree
      simp only [placeAll] at member
      simp only [List.length_cons, Nat.succ_mul]
      rcases List.mem_cons.mp member with rfl | later
      · simp only
        omega
      · have bound := ih _ entry later
        have grown := size_foldl_occupy_le
          (cellsOf (node, firstFit occupancy.used node.children occupancy.firstFree))
          occupancy.used (max occupancy.firstFree occupancy.used.size + stateSpan) (by omega) (by
            intro cell taken
            rcases List.mem_cons.mp taken with rfl | isChild
            · simp only [stateSpan]
              omega
            · obtain ⟨byte, _, rfl⟩ := List.mem_map.mp isChild
              have label_lt := labelOf_lt_stateSpan byte
              simp only
              omega)
        have free_le := nextFree_le
          ((cellsOf (node, firstFit occupancy.used node.children occupancy.firstFree)).foldl occupy
            occupancy.used) occupancy.firstFree
        simp only [cellsOf] at grown free_le
        simp only at bound
        omega

/-! ## The nodes of a trie -/

theorem place_map_fst (nodes : List TrieNode) : (place nodes).map Prod.fst = nodes :=
  placeAll_map_fst _ nodes

theorem place_nodup {nodes : List TrieNode} (distinct : ∀ node ∈ nodes, node.children.Nodup) :
    ((place nodes).flatMap cellsOf).Nodup :=
  placeAll_nodup _ nodes distinct

theorem head?_place (node : TrieNode) (nodes : List TrieNode) :
    (place (node :: nodes)).head? = some (node, 0) := by
  rw [place, placeAll, firstFit]
  rfl

theorem place_le {nodes : List TrieNode} {entry : TrieNode × Nat} (member : entry ∈ place nodes) :
    entry.2 + stateSpan ≤ nodes.length * stateSpan := by
  have bound := placeAll_le _ nodes entry member
  simp only [Array.size_empty, Nat.max_self, Nat.zero_add] at bound
  exact bound

theorem eq_of_mem_cellsOf {nodes : List TrieNode}
    (distinct : ∀ node ∈ nodes, node.children.Nodup) {left right : TrieNode × Nat}
    (inLeft : left ∈ place nodes) (inRight : right ∈ place nodes) {cell : Nat}
    (takenLeft : cell ∈ cellsOf left) (takenRight : cell ∈ cellsOf right) : left = right := by
  by_contra different
  have apart := (List.nodup_flatMap.mp (place_nodup distinct)).2
  have symmetric : Std.Symm (Function.onFun List.Disjoint cellsOf) :=
    ⟨fun _ _ disjoint _ inRight inLeft => disjoint inLeft inRight⟩
  exact apart.forall inLeft inRight different takenLeft takenRight

end ByteScan.Placing
