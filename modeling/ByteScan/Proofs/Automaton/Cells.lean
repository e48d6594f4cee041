import ByteScan.Proofs.Automaton.Positions

/-!
# The cells of an automaton

The cells that are written for a trie are the transitions and failure links of its nodes and
nothing else: `transition?_positionAt` and `failureOf_positionAt` read the table as a map of words.
-/

namespace ByteScan.Automaton

/-! ## Writing cells -/

def writesOf (positions : Std.HashMap Word Nat) (entry : TrieNode × Nat) : List (Nat × Cell) :=
  (entry.2, .failure (failurePosition positions entry.1.word)) ::
    entry.1.children.map fun byte =>
      (entry.2 + labelOf byte,
        .transition (positionOf positions (entry.1.word ++ [byte])) (labelOf byte))

def writeCell (cells : Array Cell) (entry : Nat × Cell) : Array Cell :=
  cells.setIfInBounds entry.1 entry.2

theorem writeNode_eq (positions : Std.HashMap Word Nat) (cells : Array Cell)
    (entry : TrieNode × Nat) :
    writeNode positions cells entry.1 entry.2 = (writesOf positions entry).foldl writeCell cells := by
  simp only [writeNode, writesOf, List.foldl_cons, List.foldl_map]
  rfl

theorem writesOf_map_fst (positions : Std.HashMap Word Nat) (entry : TrieNode × Nat) :
    (writesOf positions entry).map Prod.fst = Placing.cellsOf entry := by
  simp only [writesOf, Placing.cellsOf, List.map_cons, List.map_map]
  rfl

theorem size_foldl_writeCell (writes : List (Nat × Cell)) (cells : Array Cell) :
    (writes.foldl writeCell cells).size = cells.size := by
  induction writes generalizing cells with
  | nil => rfl
  | cons entry rest ih => rw [List.foldl_cons, ih, writeCell, Array.size_setIfInBounds]

theorem getElem?_foldl_writeCell_of_notMem (writes : List (Nat × Cell)) (cells : Array Cell)
    (index : Nat) (absent : index ∉ writes.map Prod.fst) :
    (writes.foldl writeCell cells)[index]? = cells[index]? := by
  induction writes generalizing cells with
  | nil => rfl
  | cons entry rest ih =>
      rw [List.map_cons, List.mem_cons, not_or] at absent
      rw [List.foldl_cons, ih _ absent.2, writeCell,
        Array.getElem?_setIfInBounds_ne (Ne.symm absent.1)]

theorem getElem?_foldl_writeCell (writes : List (Nat × Cell)) (cells : Array Cell)
    (distinct : (writes.map Prod.fst).Nodup) (index : Nat) (cell : Cell)
    (member : (index, cell) ∈ writes) (inside : index < cells.size) :
    (writes.foldl writeCell cells)[index]? = some cell := by
  induction writes generalizing cells with
  | nil => cases member
  | cons entry rest ih =>
      obtain ⟨absent, distinct'⟩ := List.nodup_cons.mp distinct
      rw [List.foldl_cons]
      rcases List.mem_cons.mp member with rfl | later
      · rw [getElem?_foldl_writeCell_of_notMem rest _ _ absent]
        exact Array.getElem?_setIfInBounds_self_of_lt inside
      · exact ih _ distinct' later (by rwa [writeCell, Array.size_setIfInBounds])

/-! ## All cells -/

def allWrites (signs : List Sign) : List (Nat × Cell) :=
  (placedOf signs).flatMap (writesOf (positionsOf (placedOf signs)))

variable {signs : List Sign} {strings : Nat}

theorem tablesOf_cells (signs : List Sign) (strings : Nat) :
    (tablesOf signs strings).cells =
      (allWrites signs).foldl writeCell
        (Array.replicate (tableSize (placedOf signs)) ⟨0, 0⟩) := by
  rw [allWrites, List.foldl_flatMap]
  simp only [← writeNode_eq]
  rfl

@[simp] theorem size_tablesOf_cells (signs : List Sign) (strings : Nat) :
    (tablesOf signs strings).cells.size = tableSize (placedOf signs) := by
  rw [tablesOf_cells, size_foldl_writeCell, Array.size_replicate]

/-- The table has at most one full reach for the root and for each byte of an atom. -/
theorem size_cells_le (signs : List Sign) (strings : Nat) :
    (tablesOf signs strings).cells.size ≤
      (((signs.map Sign.word).flatMap Word.beginnings).length + 1) * stateSpan := by
  rw [size_tablesOf_cells]
  exact (tableSize_le signs).trans (Nat.mul_le_mul_right _ (Trie.length_words_le _))

theorem allWrites_nodup (signs : List Sign) : ((allWrites signs).map Prod.fst).Nodup := by
  have same : (allWrites signs).map Prod.fst = (placedOf signs).flatMap Placing.cellsOf := by
    simp only [allWrites, List.map_flatMap, writesOf_map_fst]
  rw [same]
  exact Placing.place_nodup children_distinct

/-- A cell that is written is found in the table. -/
theorem cell_of_mem_allWrites {index : Nat} {cell : Cell}
    (member : (index, cell) ∈ allWrites signs) : (tablesOf signs strings).cell index = cell := by
  have inside : index < tableSize (placedOf signs) := by
    obtain ⟨entry, placed, written⟩ := List.mem_flatMap.mp member
    refine cell_lt_of_mem_cellsOf placed ?_
    rw [← writesOf_map_fst]
    exact List.mem_map_of_mem (f := Prod.fst) written
  have found := getElem?_foldl_writeCell (allWrites signs)
    (Array.replicate (tableSize (placedOf signs)) ⟨0, 0⟩) (allWrites_nodup signs) index cell member
    (by rwa [Array.size_replicate])
  rw [Tables.cell, tablesOf_cells, Array.getD_eq_getD_getElem?, found, Option.getD_some]

/-- A cell that is not written is blank. -/
theorem cell_of_notMem_allWrites {index : Nat} (absent : index ∉ (allWrites signs).map Prod.fst) :
    (tablesOf signs strings).cell index = ⟨0, 0⟩ := by
  have found := getElem?_foldl_writeCell_of_notMem (allWrites signs)
    (Array.replicate (tableSize (placedOf signs)) ⟨0, 0⟩) index absent
  rw [Tables.cell, tablesOf_cells, Array.getD_eq_getD_getElem?, found, Array.getElem?_replicate]
  split <;> rfl

theorem cell_cases (signs : List Sign) (strings index : Nat) :
    (tablesOf signs strings).cell index = ⟨0, 0⟩ ∨
      (index, (tablesOf signs strings).cell index) ∈ allWrites signs := by
  by_cases written : index ∈ (allWrites signs).map Prod.fst
  · obtain ⟨⟨index, cell⟩, member, rfl⟩ := List.mem_map.mp written
    right
    rwa [cell_of_mem_allWrites member]
  · exact Or.inl (cell_of_notMem_allWrites written)

theorem writes_of_word {word : Word} (member : word ∈ wordsOf signs) :
    (positionAt signs word, Cell.failure (positionAt signs (failureOf signs word))) ∈
        allWrites signs ∧
      ∀ byte, word ++ [byte] ∈ wordsOf signs →
        (positionAt signs word + labelOf byte,
          Cell.transition (positionAt signs (word ++ [byte])) (labelOf byte)) ∈ allWrites signs := by
  obtain ⟨children, placed, isChild⟩ := exists_placed member
  constructor
  · refine List.mem_flatMap.mpr ⟨_, placed, ?_⟩
    rw [writesOf, failurePosition_eq]
    exact List.mem_cons_self ..
  · intro byte listed
    refine List.mem_flatMap.mpr ⟨_, placed, List.mem_cons_of_mem _ ?_⟩
    exact List.mem_map.mpr ⟨byte, (isChild byte).mpr listed, rfl⟩

/-- What is written is the failure link of a word or a transition from one word to another. -/
theorem allWrites_cases {index : Nat} {cell : Cell} (member : (index, cell) ∈ allWrites signs) :
    ∃ word ∈ wordsOf signs,
      (index = positionAt signs word ∧
        cell = .failure (positionAt signs (failureOf signs word))) ∨
      ∃ byte, word ++ [byte] ∈ wordsOf signs ∧ index = positionAt signs word + labelOf byte ∧
        cell = .transition (positionAt signs (word ++ [byte])) (labelOf byte) := by
  obtain ⟨entry, placed, written⟩ := List.mem_flatMap.mp member
  refine ⟨entry.1.word, node_word_mem placed, ?_⟩
  rw [writesOf, failurePosition_eq, position_eq placed] at written
  rcases List.mem_cons.mp written with own | isChild
  · obtain ⟨rfl, rfl⟩ := Prod.mk.inj own
    exact Or.inl ⟨rfl, rfl⟩
  · obtain ⟨byte, inChildren, same⟩ := List.mem_map.mp isChild
    obtain ⟨rfl, rfl⟩ := Prod.mk.inj same
    exact Or.inr ⟨byte, (Trie.mem_children (node_mem_nodes placed) byte).mp inChildren, rfl, rfl⟩

/-! ## Reading the table -/

theorem key_failure (state : Nat) : (Cell.failure state).key = 0 := rfl

theorem key_transition (state : Nat) (byte : UInt8) :
    (Cell.transition state (labelOf byte)).key = labelOf byte := by
  have label := Placing.labelOf_lt_stateSpan byte
  unfold stateSpan at label
  simp only [Cell.key, Cell.transition]
  rw [UInt32.toNat_ofNat_of_lt' (Nat.lt_trans label (by decide))]
  exact Nat.mod_eq_of_lt (Nat.lt_trans label (by decide))

theorem bears_transition (state : Nat) (byte : UInt8) :
    (Cell.transition state (labelOf byte)).bears (labelOf byte) = true :=
  beq_iff_eq.mpr (key_transition state byte)

section

variable (fits : tableSize (placedOf signs) ≤ tableLimit)
include fits

theorem toNat_positionAt {word : Word} (member : word ∈ wordsOf signs) :
    (UInt32.ofNat (positionAt signs word)).toNat = positionAt signs word := by
  have bound := positionAt_add_le member
  refine UInt32.toNat_ofNat_of_lt' ?_
  simp only [stateSpan, tableLimit, UInt32.size] at bound fits
  simp only [UInt32.size]
  omega

theorem failureOf_positionAt {word : Word} (member : word ∈ wordsOf signs) :
    (tablesOf signs strings).failureOf (positionAt signs word) =
      positionAt signs (failureOf signs word) := by
  rw [Tables.failureOf, cell_of_mem_allWrites (writes_of_word member).1]
  exact toNat_positionAt fits (failureOf_mem signs word)

/-- A state has a transition for a byte exactly where its word goes on with the byte. -/
theorem transition?_positionAt {word : Word} (member : word ∈ wordsOf signs) (byte : UInt8) :
    (tablesOf signs strings).transition? (positionAt signs word) (labelOf byte) =
      if isNode signs (word ++ [byte]) then some (positionAt signs (word ++ [byte])) else none := by
  simp only [Tables.transition?, isNode, decide_eq_true_eq]
  by_cases goesOn : word ++ [byte] ∈ wordsOf signs
  · rw [cell_of_mem_allWrites ((writes_of_word member).2 byte goesOn), if_pos goesOn,
      if_pos (bears_transition ..)]
    exact congrArg some (toNat_positionAt fits goesOn)
  · rw [if_neg goesOn, if_neg]
    intro bears
    have key : ((tablesOf signs strings).cell (positionAt signs word + labelOf byte)).key =
        labelOf byte := beq_iff_eq.mp bears
    have positive := Placing.labelOf_pos byte
    -- The cell belongs to another word: blank cells and links bear no label of a byte, and a
    -- transition for the same byte would begin at the same position.
    rcases cell_cases signs strings (positionAt signs word + labelOf byte) with blank | written
    · rw [blank] at key
      exact absurd key (Nat.ne_of_lt positive)
    · obtain ⟨other, listed, ⟨_, link⟩ | ⟨byte', goesOn', place, cell⟩⟩ := allWrites_cases written
      · rw [link, key_failure] at key
        omega
      · rw [cell, key_transition] at key
        obtain rfl := Placing.labelOf_injective key
        obtain rfl := positionAt_injective member listed (Nat.add_right_cancel place)
        exact goesOn goesOn'

variable (strings) in
theorem target_le (index : Nat) :
    ((tablesOf signs strings).cell index).target ≤ tableSize (placedOf signs) - stateSpan := by
  rcases cell_cases signs strings index with blank | written
  · rw [blank]
    exact Nat.zero_le _
  · obtain ⟨word, listed, ⟨_, cell⟩ | ⟨byte, goesOn, _, cell⟩⟩ := allWrites_cases written
    · have bound := positionAt_add_le (failureOf_mem signs word)
      rw [cell]
      simp only [Cell.target, Cell.failure, toNat_positionAt fits (failureOf_mem signs word)]
      omega
    · have bound := positionAt_add_le goesOn
      rw [cell]
      simp only [Cell.target, Cell.transition, toNat_positionAt fits goesOn]
      omega

end

end ByteScan.Automaton
