import ByteScan.Proofs.Automaton.Links

/-!
# Finding places for nodes

A place for a node is sought from the first free cell on, one cell after the other, and so is the next
free cell. Both searches end at the latest behind all cells that are taken. So every node of a trie
gets a place, and it is the one that `Placing.place` gives to its word.
-/

namespace ByteScan

/-- The first number from one on that passes a test; undefined if no number does. -/
def seek (passes : Nat → Bool) : Nat → Part Nat :=
  loop fun number => if passes number then .inl number else .inr (number + 1)

/-! ## Searches that end -/

section

variable {passes : Nat → Bool} {number : Nat}

theorem seek_of_passes (passing : passes number = true) : seek passes number = Part.some number :=
  loop_of_result (if_pos passing)

theorem seek_of_not (other : ¬passes number = true) : seek passes number = seek passes (number + 1) :=
  loop_of_next (if_neg other)

end

namespace Placing

theorem seek_fits (used : Array Bool) (children : List UInt8) (position : Nat) :
    seek (fits used children) position = Part.some (firstFit used children position) := by
  fun_induction firstFit used children position with
  | case1 position inside fitting => rw [seek_of_passes fitting]
  | case2 position inside other ih => rw [seek_of_not other, ih]
  | case3 position outside =>
      rw [seek_of_passes (fits_of_size_le children (Nat.le_of_not_lt outside))]

theorem seek_isFree (used : Array Bool) (cell : Nat) :
    seek (isFree used) cell = Part.some (nextFree used cell) := by
  fun_induction nextFree used cell with
  | case1 cell inside free => rw [seek_of_passes free]
  | case2 cell inside other ih => rw [seek_of_not other, ih]
  | case3 cell outside => rw [seek_of_passes (isFree_of_size_le (Nat.le_of_not_lt outside))]

def chosen (occupancy : Occupancy) (node : TrieNode) : Nat :=
  firstFit occupancy.used node.children occupancy.firstFree

def settled (occupancy : Occupancy) (node : TrieNode) : Occupancy :=
  let used := (cellsOf (node, chosen occupancy node)).foldl occupy occupancy.used
  ⟨used, nextFree used occupancy.firstFree⟩

theorem placeAll_cons (occupancy : Occupancy) (node : TrieNode) (nodes : List TrieNode) :
    placeAll occupancy (node :: nodes) =
      (node, chosen occupancy node) :: placeAll (settled occupancy node) nodes := rfl

end Placing

namespace NumberedTrie

open Automaton Placing

/-! ## Placing numbered nodes -/

def bytesOf (trie : NumberedTrie) (node : Nat) : List UInt8 := (trie.childrenOf node).map Prod.fst

/-- Places one node. With the cells that are taken goes the position of each node. -/
def placeNode (trie : NumberedTrie) (state : Occupancy × Array Nat) (node : Nat) :
    Part (Occupancy × Array Nat) := do
  let (occupancy, positions) := state
  let bytes := trie.bytesOf node
  let position ← seek (fits occupancy.used bytes) (if node = root then 0 else occupancy.firstFree)
  let used := (position :: bytes.map fun byte => position + labelOf byte).foldl occupy occupancy.used
  let firstFree ← seek (isFree used) occupancy.firstFree
  return (⟨used, firstFree⟩, positions.setIfInBounds node position)

def place (trie : NumberedTrie) (order : List Nat) : Part (Array Nat) :=
  (order.foldlM trie.placeNode (⟨#[], 0⟩, Array.replicate trie.size 0)).map Prod.snd

variable {signs : List Sign} {trie : NumberedTrie} {names : List Word}

theorem children_eq {node : TrieNode} (member : node ∈ Trie.nodes (signs.map Sign.word)) :
    node.children = nextBytes signs node.word := by
  obtain ⟨word, _, rfl⟩ := List.mem_map.mp member
  refine List.filter_congr fun byte _ => ?_
  rw [Trie.contains_index]
  rfl

section

variable (spells : trie.Spells signs names)
include spells

theorem Spells.bytesOf_eq {node : TrieNode} (member : node ∈ Trie.nodes (signs.map Sign.word)) :
    trie.bytesOf (names.idxOf node.word) = node.children := by
  rw [bytesOf, spells.childrenOf_eq (Trie.word_mem_words member), List.map_map, children_eq member]
  exact List.map_id _

theorem Spells.placeNode_eq {node : TrieNode} (member : node ∈ Trie.nodes (signs.map Sign.word))
    {occupancy : Occupancy} (atStart : node.word = [] → occupancy.firstFree = 0)
    (positions : Array Nat) :
    trie.placeNode (occupancy, positions) (names.idxOf node.word) =
      Part.some (settled occupancy node,
        positions.setIfInBounds (names.idxOf node.word) (chosen occupancy node)) := by
  have origin : (if names.idxOf node.word = root then 0 else occupancy.firstFree) =
      occupancy.firstFree := by
    split
    · rename_i isRoot
      have isEmpty : node.word = [] := by
        by_contra filled
        exact spells.idxOf_ne_root (Trie.word_mem_words member) filled isRoot
      exact (atStart isEmpty).symm
    · rfl
  simp only [placeNode, spells.bytesOf_eq member, origin, seek_fits, seek_isFree,
    Part.bind_eq_bind, Part.bind_some]
  rfl

theorem Spells.placeNode_assigns {node : TrieNode} {occupancy : Occupancy} {positions : Array Nat}
    {words : List Word} (placed : (node, chosen occupancy node) ∈ placedOf signs)
    (atStart : node.word = [] → occupancy.firstFree = 0) (size : positions.size = trie.size)
    (assigns : Assigns positions names (positionAt signs) words) :
    ∃ after, trie.placeNode (occupancy, positions) (names.idxOf node.word) =
        Part.some (settled occupancy node, after) ∧ after.size = trie.size ∧
      Assigns after names (positionAt signs) (words ++ [node.word]) := by
  have listed : node.word ∈ wordsOf signs := node_word_mem placed
  have isPosition : chosen occupancy node = positionAt signs node.word := position_eq placed
  refine ⟨_, spells.placeNode_eq (node_mem_nodes placed) atStart positions, ?_, ?_⟩
  · rw [Array.size_setIfInBounds, size]
  · rw [isPosition]
    exact spells.assigns_set assigns listed size

/-- When some nodes have been placed, the others get the positions of their words. Only the first node
could be the one that stands at the start. -/
theorem Spells.foldlM_placeNode (nodes : List TrieNode) (occupancy : Occupancy)
    (positions : Array Nat) (words : List Word)
    (placed : ∀ entry ∈ placeAll occupancy nodes, entry ∈ placedOf signs)
    (atStart : ∀ node ∈ nodes.head?, node.word = [] → occupancy.firstFree = 0)
    (later : ∀ node ∈ nodes.tail, node.word ≠ []) (size : positions.size = trie.size)
    (assigns : Assigns positions names (positionAt signs) words) :
    ∃ state, (nodes.map fun node => names.idxOf node.word).foldlM trie.placeNode
        (occupancy, positions) = Part.some state ∧ state.2.size = trie.size ∧
      Assigns state.2 names (positionAt signs) (words ++ nodes.map TrieNode.word) := by
  induction nodes generalizing occupancy positions words with
  | nil =>
      refine ⟨(occupancy, positions), rfl, size, ?_⟩
      rwa [List.map_nil, List.append_nil]
  | cons node nodes ih =>
      rw [placeAll_cons, List.forall_mem_cons] at placed
      obtain ⟨between, step, size', assigns'⟩ :=
        spells.placeNode_assigns placed.1 (atStart node rfl) size assigns
      obtain ⟨state, run, size'', all⟩ := ih _ between (words ++ [node.word]) placed.2
        (fun next isNext isEmpty => absurd isEmpty (later next (List.mem_of_mem_head? isNext)))
        (fun next isNext => later next (List.mem_of_mem_tail isNext)) size' assigns'
      refine ⟨state, ?_, size'', ?_⟩
      · rw [List.map_cons, List.foldlM_cons, step]
        exact (Part.bind_some _ _).trans run
      · rwa [List.map_cons, List.append_cons]

/-- Every node gets a place, and it is the position of its word. -/
theorem Spells.place_eq :
    ∃ positions, trie.place ((wordsOf signs).map names.idxOf) = Part.some positions ∧
      positions.size = trie.size ∧
      Assigns positions names (positionAt signs) (wordsOf signs) := by
  have words : (Trie.nodes (signs.map Sign.word)).map TrieNode.word = wordsOf signs :=
    Trie.nodes_map_word _
  have later : ∀ node ∈ (Trie.nodes (signs.map Sign.word)).tail, node.word ≠ [] := by
    intro node member isEmpty
    have listed : [] ∈ (wordsOf signs).tail := by
      rw [← words, ← List.map_tail, ← isEmpty]
      exact List.mem_map_of_mem member
    have distinct : (wordsOf signs).Nodup := Trie.words_nodup _
    rw [wordsOf_eq] at distinct listed
    exact (List.nodup_cons.mp distinct).1 listed
  obtain ⟨state, run, size, assigns⟩ := spells.foldlM_placeNode (Trie.nodes (signs.map Sign.word))
    ⟨#[], 0⟩ (Array.replicate trie.size 0) [] (fun _ member => member) (fun _ _ _ => rfl) later
    Array.size_replicate nofun
  rw [List.nil_append, words] at assigns
  refine ⟨state.2, ?_, size, assigns⟩
  rw [place, ← words, List.map_map]
  exact (congrArg (Part.map Prod.snd) run).trans (Part.map_some _ _)

end

end NumberedTrie

end ByteScan
