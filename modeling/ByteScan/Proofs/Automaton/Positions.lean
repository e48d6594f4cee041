import ByteScan.Proofs.Automaton.Placing
import ByteScan.Proofs.Automaton.Words

/-!
# Positions of words

Each word of a trie has one position in the table, and no two words share one. So a state may be
spoken of as the word that leads to it, and the table is as long as the positions require.
-/

namespace ByteScan.Automaton

/-! ## Words and their positions -/

def wordsOf (signs : List Sign) : List Word := Trie.words (signs.map Sign.word)

def placedOf (signs : List Sign) : List (TrieNode × Nat) :=
  Placing.place (Trie.nodes (signs.map Sign.word))

def positionAt (signs : List Sign) (word : Word) : Nat :=
  positionOf (positionsOf (placedOf signs)) word

def isNode (signs : List Sign) (word : Word) : Bool := decide (word ∈ wordsOf signs)

def failureOf (signs : List Sign) (word : Word) : Word := Trie.failureWord (isNode signs) word

variable {signs : List Sign}

theorem isNode_nil (signs : List Sign) : isNode signs [] = true :=
  decide_eq_true (Trie.nil_mem_words _)

theorem failureOf_mem (signs : List Sign) (word : Word) : failureOf signs word ∈ wordsOf signs :=
  of_decide_eq_true (Trie.failureWord_isNode (isNode_nil signs) word)

private theorem contains_foldl_positions (placed : List (TrieNode × Nat))
    (positions : Std.HashMap Word Nat) (word : Word) :
    (placed.foldl (fun positions entry => positions.insert entry.1.word entry.2)
        positions).contains word =
      (decide (word ∈ placed.map fun entry => entry.1.word) || positions.contains word) := by
  induction placed generalizing positions with
  | nil => simp
  | cons entry rest ih =>
      rw [List.foldl_cons, ih, Std.HashMap.contains_insert]
      rw [List.map_cons]
      by_cases same : entry.1.word = word
      · simp [same]
      · simp [beq_false_of_ne same, beq_false_of_ne (Ne.symm same)]

private theorem getD_foldl_positions_of_notMem (placed : List (TrieNode × Nat))
    (positions : Std.HashMap Word Nat) (word : Word)
    (absent : word ∉ placed.map fun entry => entry.1.word) :
    (placed.foldl (fun positions entry => positions.insert entry.1.word entry.2)
        positions).getD word 0 = positions.getD word 0 := by
  induction placed generalizing positions with
  | nil => rfl
  | cons entry rest ih =>
      rw [List.map_cons, List.mem_cons, not_or] at absent
      rw [List.foldl_cons, ih _ absent.2, Std.HashMap.getD_insert,
        beq_false_of_ne (Ne.symm absent.1)]
      rfl

private theorem getD_foldl_positions (placed : List (TrieNode × Nat))
    (positions : Std.HashMap Word Nat) (distinct : (placed.map fun entry => entry.1.word).Nodup)
    (entry : TrieNode × Nat) (member : entry ∈ placed) :
    (placed.foldl (fun positions entry => positions.insert entry.1.word entry.2)
        positions).getD entry.1.word 0 = entry.2 := by
  induction placed generalizing positions with
  | nil => cases member
  | cons first rest ih =>
      obtain ⟨absent, distinct'⟩ := List.nodup_cons.mp distinct
      rw [List.foldl_cons]
      rcases List.mem_cons.mp member with rfl | later
      · rw [getD_foldl_positions_of_notMem rest _ _ absent, Std.HashMap.getD_insert_self]
      · exact ih _ distinct' later

theorem placedOf_map_fst (signs : List Sign) :
    (placedOf signs).map Prod.fst = Trie.nodes (signs.map Sign.word) :=
  Placing.place_map_fst _

theorem placedOf_map_word (signs : List Sign) :
    (placedOf signs).map (fun entry => entry.1.word) = wordsOf signs := by
  rw [wordsOf, ← Trie.nodes_map_word, ← placedOf_map_fst, List.map_map]
  rfl

theorem node_mem_nodes {entry : TrieNode × Nat} (member : entry ∈ placedOf signs) :
    entry.1 ∈ Trie.nodes (signs.map Sign.word) := by
  rw [← placedOf_map_fst]
  exact List.mem_map_of_mem member

theorem node_word_mem {entry : TrieNode × Nat} (member : entry ∈ placedOf signs) :
    entry.1.word ∈ wordsOf signs := Trie.word_mem_words (node_mem_nodes member)

theorem contains_positionsOf (signs : List Sign) :
    (positionsOf (placedOf signs)).contains = isNode signs := by
  funext word
  rw [positionsOf, contains_foldl_positions, Std.HashMap.contains_empty, Bool.or_false,
    placedOf_map_word]
  rfl

theorem failurePosition_eq (word : Word) :
    failurePosition (positionsOf (placedOf signs)) word = positionAt signs (failureOf signs word) := by
  rw [failurePosition, contains_positionsOf]
  rfl

theorem position_eq {entry : TrieNode × Nat} (member : entry ∈ placedOf signs) :
    entry.2 = positionAt signs entry.1.word := by
  have distinct : ((placedOf signs).map fun entry => entry.1.word).Nodup := by
    rw [placedOf_map_word]
    exact Trie.words_nodup _
  exact (getD_foldl_positions _ _ distinct entry member).symm

theorem exists_placed {word : Word} (member : word ∈ wordsOf signs) :
    ∃ children : List UInt8, (⟨word, children⟩, positionAt signs word) ∈ placedOf signs ∧
      ∀ byte, byte ∈ children ↔ word ++ [byte] ∈ wordsOf signs := by
  rw [← placedOf_map_word] at member
  obtain ⟨⟨⟨word, children⟩, position⟩, placed, rfl⟩ := List.mem_map.mp member
  have same : position = positionAt signs word := position_eq placed
  subst same
  exact ⟨children, placed, Trie.mem_children (node_mem_nodes placed)⟩

theorem children_distinct :
    ∀ node ∈ Trie.nodes (signs.map Sign.word), node.children.Nodup :=
  fun _ member => Trie.children_nodup member

theorem positionAt_injective {left right : Word} (inLeft : left ∈ wordsOf signs)
    (inRight : right ∈ wordsOf signs) (same : positionAt signs left = positionAt signs right) :
    left = right := by
  obtain ⟨children, placed, _⟩ := exists_placed inLeft
  obtain ⟨children', placed', _⟩ := exists_placed inRight
  have equal := Placing.eq_of_mem_cellsOf children_distinct placed placed'
    (List.mem_cons_self ..) (by rw [same]; exact List.mem_cons_self ..)
  exact congrArg (fun entry => entry.1.word) equal

private theorem words_head? (given : List Word) : (Trie.words given).head? = some [] := by
  cases listed : Trie.words given with
  | nil => exact absurd (Trie.nil_mem_words given) (by rw [listed]; exact List.not_mem_nil)
  | cons first rest =>
      have ordered := Trie.words_ordered given
      have member := Trie.nil_mem_words given
      rw [listed] at ordered member
      rcases List.mem_cons.mp member with rfl | later
      · rfl
      · have before := (List.rel_of_pairwise_cons ordered later).1
        have short := Word.length_le_of_precedes before
        rw [List.length_nil, Nat.le_zero, List.length_eq_zero_iff] at short
        rw [short]
        rfl

theorem positionAt_nil (signs : List Sign) : positionAt signs [] = root := by
  cases listed : Trie.nodes (signs.map Sign.word) with
  | nil =>
      have words := Trie.nodes_map_word (signs.map Sign.word)
      have head := words_head? (signs.map Sign.word)
      rw [← words, listed] at head
      cases head
  | cons node nodes =>
      have head := Placing.head?_place node nodes
      rw [← listed] at head
      have isEmpty : node.word = [] := by
        have first := words_head? (signs.map Sign.word)
        rw [← Trie.nodes_map_word, listed] at first
        exact Option.some.inj first
      have placed : (node, 0) ∈ placedOf signs := List.mem_of_mem_head? head
      have position := position_eq placed
      rw [isEmpty] at position
      exact position.symm

/-! ## The size of the table -/

private theorem le_foldl_max (placed : List (TrieNode × Nat)) (largest : Nat) :
    largest ≤ placed.foldl (fun largest entry => max largest entry.2) largest ∧
      ∀ entry ∈ placed,
        entry.2 ≤ placed.foldl (fun largest entry => max largest entry.2) largest := by
  induction placed generalizing largest with
  | nil => exact ⟨Nat.le_refl _, fun entry member => by cases member⟩
  | cons first rest ih =>
      obtain ⟨start, later⟩ := ih (max largest first.2)
      rw [List.foldl_cons]
      refine ⟨by omega, ?_⟩
      intro entry member
      rcases List.mem_cons.mp member with rfl | inRest
      · omega
      · exact later entry inRest

private theorem foldl_max_le (placed : List (TrieNode × Nat)) (largest bound : Nat)
    (start : largest ≤ bound) (below : ∀ entry ∈ placed, entry.2 ≤ bound) :
    placed.foldl (fun largest entry => max largest entry.2) largest ≤ bound := by
  induction placed generalizing largest with
  | nil => exact start
  | cons first rest ih =>
      have first_le := below first (List.mem_cons_self ..)
      exact ih _ (Nat.max_le.mpr ⟨start, first_le⟩) fun entry member =>
        below entry (List.mem_cons_of_mem _ member)

theorem positionAt_add_le {word : Word} (member : word ∈ wordsOf signs) :
    positionAt signs word + stateSpan ≤ tableSize (placedOf signs) := by
  obtain ⟨children, placed, _⟩ := exists_placed member
  exact Nat.add_le_add_right ((le_foldl_max _ 0).2 _ placed) _

theorem cell_lt_of_mem_cellsOf {entry : TrieNode × Nat} (placed : entry ∈ placedOf signs)
    {cell : Nat} (taken : cell ∈ Placing.cellsOf entry) : cell < tableSize (placedOf signs) := by
  have bound := positionAt_add_le (node_word_mem placed)
  rw [← position_eq placed] at bound
  rcases List.mem_cons.mp taken with rfl | isChild
  · have positive : 0 < stateSpan := by decide
    omega
  · obtain ⟨byte, _, rfl⟩ := List.mem_map.mp isChild
    have label := Placing.labelOf_lt_stateSpan byte
    omega

/-- The table has at most one full reach for each node. -/
theorem tableSize_le (signs : List Sign) :
    tableSize (placedOf signs) ≤ (wordsOf signs).length * stateSpan := by
  have count : (Trie.nodes (signs.map Sign.word)).length = (wordsOf signs).length := by
    rw [wordsOf, ← Trie.nodes_map_word, List.length_map]
  have positive : 0 < (wordsOf signs).length := List.length_pos_of_mem (Trie.nil_mem_words _)
  have bound := foldl_max_le (placedOf signs) 0 ((wordsOf signs).length * stateSpan - stateSpan)
    (Nat.zero_le _) (by
      intro entry member
      have placed := Placing.place_le member
      rw [count] at placed
      omega)
  have reach : stateSpan ≤ (wordsOf signs).length * stateSpan := Nat.le_mul_of_pos_left _ positive
  unfold tableSize
  omega

end ByteScan.Automaton
