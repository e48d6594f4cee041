import ByteScan.Proofs.Automaton.Counting
import ByteScan.Proofs.Automaton.Settling

/-!
# Packed tries

A trie with numbered nodes is packed into one table: its nodes are taken level by level, are linked and
placed, and write their cells. `pack_exact` says that this ends, that the table is the one of the
automaton for the same words, and that the trie can be read off it.
-/

namespace ByteScan

structure PackedTrie where
  /-- For each node, where the search goes on when no child fits. -/
  failures : Array Nat
  positions : Array Nat
  cells : Array Cell

namespace NumberedTrie

open Automaton

def cellsOf (trie : NumberedTrie) (positions : Array Nat) (node : Nat) : List Nat :=
  positions.getD node 0 ::
    (trie.childrenOf node).map fun entry => positions.getD node 0 + labelOf entry.1

def writeNode (trie : NumberedTrie) (failures positions : Array Nat) (cells : Array Cell)
    (node : Nat) : Array Cell :=
  let position := positions.getD node 0
  (trie.childrenOf node).foldl
    (fun cells entry =>
      cells.setIfInBounds (position + labelOf entry.1)
        (.transition (positions.getD entry.2 0) (labelOf entry.1)))
    (cells.setIfInBounds position (.failure (positions.getD (failures.getD node 0) 0)))

/-- The table into which the nodes write their cells; the last position has a full reach behind it. -/
def table (trie : NumberedTrie) (order : List Nat) (failures positions : Array Nat) : Array Cell :=
  order.foldl (trie.writeNode failures positions)
    (Array.replicate (positions.toList.foldl max 0 + stateSpan) ⟨0, 0⟩)

/-- Packs a trie; undefined if one of the searches for its nodes, links and places does not end. -/
def pack (trie : NumberedTrie) : Part PackedTrie := do
  let order ← trie.order
  let failures ← trie.link order
  let positions ← trie.place order
  return ⟨failures, positions, trie.table order failures positions⟩

/-- The cells at the position of a node tell how the node goes on and where the search does. -/
structure Shows (trie : NumberedTrie) (packed : PackedTrie) (tables : Tables) (node position : Nat) :
    Prop where
  /-- The cell for a byte is a transition where the node goes on with the byte, and only there. -/
  bears_iff : ∀ byte, (tables.cell (position + labelOf byte)).bears (labelOf byte) = true ↔
    ∃ child, trie.child? node byte = some child
  /-- A transition leads to the position of the child. -/
  target : ∀ byte child, trie.child? node byte = some child →
    packed.positions[child]? = some (tables.cell (position + labelOf byte)).target
  /-- The own cell leads to the position of the failure node. -/
  failure : ∃ failure, packed.failures[node]? = some failure ∧
    packed.positions[failure]? = some (tables.cell position).target
  /-- The own cell is no transition. -/
  own : ∀ byte, (tables.cell position).bears (labelOf byte) = false

variable {signs : List Sign} {trie : NumberedTrie} {names : List Word}

/-! ## All values of nodes -/

section

variable (spells : trie.Spells signs names)
include spells

theorem Spells.idxOf_lt_size {word : Word} (listed : word ∈ wordsOf signs) :
    names.idxOf word < trie.size :=
  spells.lt_size (spells.named listed)

theorem Spells.exists_word {node : Nat} (inside : node < trie.size) :
    ∃ word ∈ wordsOf signs, names.idxOf word = node := by
  rw [spells.size] at inside
  have isNamed := List.getElem?_eq_getElem inside
  exact ⟨_, (spells.members _).mp (List.getElem_mem inside), spells.idxOf_eq isNamed⟩

theorem Spells.perm_words : names.Perm (wordsOf signs) :=
  (List.perm_ext_iff_of_nodup spells.nodup (Trie.words_nodup _)).mpr spells.members

theorem Spells.toList_eq {values : Array Nat} {valueOf : Word → Nat} (size : values.size = trie.size)
    (assigns : Assigns values names valueOf (wordsOf signs)) : values.toList = names.map valueOf := by
  refine List.ext_getElem ?_ fun node inside inside' => ?_
  · rw [Array.length_toList, List.length_map, size, spells.size]
  · rw [Array.length_toList] at inside
    rw [List.length_map] at inside'
    have isNamed := List.getElem?_eq_getElem inside'
    have value := assigns names[node] ((spells.members _).mp (List.getElem_mem inside'))
    rw [spells.idxOf_eq isNamed, getD_of_lt inside] at value
    rw [Array.getElem_toList, List.getElem_map, value]

theorem Spells.getElem?_idxOf {values : Array Nat} {valueOf : Word → Nat}
    (size : values.size = trie.size) (assigns : Assigns values names valueOf (wordsOf signs))
    {word : Word} (listed : word ∈ wordsOf signs) :
    values[names.idxOf word]? = some (valueOf word) := by
  have inside := spells.idxOf_lt_size listed
  rw [← size] at inside
  rw [Array.getElem?_eq_getElem inside, ← assigns word listed, getD_of_lt inside]

theorem Spells.positions_nodup {positions : Array Nat} (size : positions.size = trie.size)
    (assigns : Assigns positions names (positionAt signs) (wordsOf signs)) :
    positions.toList.Nodup := by
  rw [spells.toList_eq size assigns]
  refine List.Nodup.map_on ?_ spells.nodup
  intro first inFirst second inSecond
  exact positionAt_injective ((spells.members _).mp inFirst) ((spells.members _).mp inSecond)

theorem Spells.position_add_lt {positions : Array Nat} (size : positions.size = trie.size)
    (assigns : Assigns positions names (positionAt signs) (wordsOf signs)) (strings : Nat)
    {position : Nat} (member : position ∈ positions) :
    position + 256 < (tablesOf signs strings).cells.size := by
  rw [← Array.mem_toList_iff, spells.toList_eq size assigns] at member
  obtain ⟨word, isName, rfl⟩ := List.mem_map.mp member
  rw [size_tablesOf_cells]
  exact Nat.lt_of_succ_le (positionAt_add_le ((spells.members word).mp isName))

/-! ## The table of a packed trie -/

theorem Spells.cellsOf_eq {positions : Array Nat}
    (assigns : Assigns positions names (positionAt signs) (wordsOf signs))
    {entry : TrieNode × Nat} (placed : entry ∈ placedOf signs) :
    trie.cellsOf positions (names.idxOf entry.1.word) = Placing.cellsOf entry := by
  have listed := node_word_mem placed
  rw [cellsOf, spells.childrenOf_eq listed, assigns _ listed, ← position_eq placed, Placing.cellsOf,
    children_eq (node_mem_nodes placed), List.map_map]
  rfl

theorem Spells.writeNode_eq {failures positions : Array Nat}
    (links : Assigns failures names (failureNode signs names) (wordsOf signs))
    (assigns : Assigns positions names (positionAt signs) (wordsOf signs))
    {entry : TrieNode × Nat} (placed : entry ∈ placedOf signs) (cells : Array Cell) :
    trie.writeNode failures positions cells (names.idxOf entry.1.word) =
      Automaton.writeNode (positionsOf (placedOf signs)) cells entry.1 entry.2 := by
  have listed := node_word_mem placed
  simp only [writeNode, Automaton.writeNode]
  rw [spells.childrenOf_eq listed, assigns _ listed, links _ listed, failureNode,
    assigns _ (failureOf_mem signs _), failurePosition_eq, children_eq (node_mem_nodes placed),
    ← position_eq placed, List.foldl_map]
  refine List.foldl_ext _ _ _ fun cells byte member => ?_
  rw [assigns _ (mem_nextBytes.mp member)]
  rfl

theorem Spells.foldl_max_eq {positions : Array Nat} (size : positions.size = trie.size)
    (assigns : Assigns positions names (positionAt signs) (wordsOf signs)) :
    positions.toList.foldl max 0 + stateSpan = tableSize (placedOf signs) := by
  have places : (placedOf signs).map Prod.snd = (wordsOf signs).map (positionAt signs) := by
    rw [← placedOf_map_word, List.map_map]
    exact List.map_congr_left fun entry placed => position_eq placed
  have same : positions.toList.Perm ((placedOf signs).map Prod.snd) := by
    rw [spells.toList_eq size assigns, places]
    exact spells.perm_words.map _
  rw [tableSize, same.foldl_eq' (fun _ _ _ _ _ => Nat.max_right_comm ..), List.foldl_map]

theorem Spells.table_eq {failures positions : Array Nat} (size : positions.size = trie.size)
    (links : Assigns failures names (failureNode signs names) (wordsOf signs))
    (assigns : Assigns positions names (positionAt signs) (wordsOf signs)) (strings : Nat) :
    trie.table ((wordsOf signs).map names.idxOf) failures positions =
      (tablesOf signs strings).cells := by
  rw [table, spells.foldl_max_eq size assigns, ← placedOf_map_word, List.map_map, List.foldl_map]
  exact List.foldl_ext _ _ _ fun cells entry placed => spells.writeNode_eq links assigns placed cells

/-- Packing ends, and it gives nodes the links and positions of their words. -/
theorem Spells.pack_eq (strings : Nat) :
    ∃ packed ∈ trie.pack, packed.cells = (tablesOf signs strings).cells ∧
      packed.failures.size = trie.size ∧
      Assigns packed.failures names (failureNode signs names) (wordsOf signs) ∧
      packed.positions.size = trie.size ∧
      Assigns packed.positions names (positionAt signs) (wordsOf signs) := by
  obtain ⟨failures, linked, failuresSize, links⟩ := spells.link_eq
  obtain ⟨positions, placed, positionsSize, assigns⟩ := spells.place_eq
  refine ⟨⟨failures, positions, _⟩, ?_, spells.table_eq positionsSize links assigns strings,
    failuresSize, links, positionsSize, assigns⟩
  simp only [pack, spells.order_eq, linked, placed, Part.bind_eq_bind, Part.bind_some]
  exact Part.mem_some _

/-- No cell is taken by two nodes, or twice by one. -/
theorem Spells.cells_nodup {positions : Array Nat}
    (assigns : Assigns positions names (positionAt signs) (wordsOf signs)) :
    ((List.range trie.size).flatMap (trie.cellsOf positions)).Nodup := by
  have nodes : (List.range trie.size).Perm ((wordsOf signs).map names.idxOf) := by
    refine (List.perm_ext_iff_of_nodup List.nodup_range ?_).mpr fun node => ?_
    · exact List.Nodup.map_on (fun _ inFirst _ _ same => spells.idxOf_injective inFirst same)
        (Trie.words_nodup _)
    · rw [List.mem_range, List.mem_map]
      constructor
      · exact spells.exists_word
      · rintro ⟨word, listed, rfl⟩
        exact spells.idxOf_lt_size listed
  have cells : ((wordsOf signs).map names.idxOf).flatMap (trie.cellsOf positions) =
      (placedOf signs).flatMap Placing.cellsOf := by
    rw [← placedOf_map_word, List.map_map, List.flatMap_map]
    exact List.flatMap_congr fun entry placed => spells.cellsOf_eq assigns placed
  rw [(nodes.flatMap_right _).nodup_iff, cells]
  exact Placing.place_nodup children_distinct

theorem Spells.shows (fits : tableSize (placedOf signs) ≤ tableLimit) (strings : Nat)
    {packed : PackedTrie} (failuresSize : packed.failures.size = trie.size)
    (links : Assigns packed.failures names (failureNode signs names) (wordsOf signs))
    (positionsSize : packed.positions.size = trie.size)
    (assigns : Assigns packed.positions names (positionAt signs) (wordsOf signs)) {word : Word}
    (listed : word ∈ wordsOf signs) :
    trie.Shows packed (tablesOf signs strings) (names.idxOf word) (positionAt signs word) := by
  have goesOn {byte : UInt8} {child : Nat}
      (isChild : trie.child? (names.idxOf word) byte = some child) :
      word ++ [byte] ∈ wordsOf signs ∧ names.idxOf (word ++ [byte]) = child := by
    have childNamed := (spells.child?_eq_some_iff (spells.named listed)).mp isChild
    exact ⟨(spells.members _).mp (List.mem_of_getElem? childNamed), spells.idxOf_eq childNamed⟩
  have cell {byte : UInt8} (childListed : word ++ [byte] ∈ wordsOf signs) :
      (tablesOf signs strings).cell (positionAt signs word + labelOf byte) =
        .transition (positionAt signs (word ++ [byte])) (labelOf byte) :=
    cell_of_mem_allWrites ((writes_of_word listed).2 byte childListed)
  refine ⟨fun byte => ⟨fun bears => ?_, ?_⟩, fun byte child isChild => ?_, ?_, fun byte => ?_⟩
  · have transition : (tablesOf signs strings).transition? (positionAt signs word) (labelOf byte) = _ :=
      transition?_positionAt fits listed byte
    rw [Tables.transition?, if_pos bears] at transition
    split at transition
    · rename_i isNext
      exact ⟨names.idxOf (word ++ [byte]), by rw [spells.child?_eq listed, if_pos isNext]⟩
    · cases transition
  · rintro ⟨child, isChild⟩
    rw [cell (goesOn isChild).1]
    exact bears_transition _ byte
  · obtain ⟨childListed, rfl⟩ := goesOn isChild
    rw [spells.getElem?_idxOf positionsSize assigns childListed, cell childListed]
    exact congrArg some (toNat_positionAt fits childListed).symm
  · refine ⟨failureNode signs names word, spells.getElem?_idxOf failuresSize links listed, ?_⟩
    rw [failureNode, spells.getElem?_idxOf positionsSize assigns (failureOf_mem signs word),
      ← failureOf_positionAt fits listed]
    rfl
  · rw [cell_of_mem_allWrites (writes_of_word listed).1]
    exact beq_false_of_ne (Nat.ne_of_lt (Placing.labelOf_pos byte))

end

end NumberedTrie

namespace Automaton

open NumberedTrie

/-- A trie to which words are added can be packed. Its nodes get different positions, the first node that
at the start, and no cell is taken twice. The table is that of the automaton for the words; it has a
full reach behind every position, and unless it is too large it shows every node. The automaton has
as many states as the trie has nodes. -/
theorem pack_exact (signs : List Sign) (strings : Nat) :
    let trie := NumberedTrie.ofWords (signs.map Sign.word)
    let tables := tablesOf signs strings
    ∃ packed ∈ trie.pack, packed.cells = tables.cells ∧
      packed.positions.size = trie.size ∧ packed.positions.toList.Nodup ∧
      packed.positions[NumberedTrie.root]? = some 0 ∧
      ((List.range trie.size).flatMap (trie.cellsOf packed.positions)).Nodup ∧
      (∀ position ∈ packed.positions, position + 256 < tables.cells.size) ∧
      (tables.cells.size ≤ tableLimit → ∀ node position : Nat,
        packed.positions[node]? = some position → trie.Shows packed tables node position) ∧
      ∀ automaton, ofSigns signs strings = .ok automaton →
        automaton.toTables = tables ∧ automaton.stateCount = trie.size := by
  intro trie tables
  obtain ⟨names, spells⟩ := exists_spells signs
  obtain ⟨packed, isPacked, cells, failuresSize, links, positionsSize, assigns⟩ :=
    spells.pack_eq strings
  refine ⟨packed, isPacked, cells, positionsSize, spells.positions_nodup positionsSize assigns, ?_,
    spells.cells_nodup assigns,
    fun position => spells.position_add_lt positionsSize assigns strings, ?_, ?_⟩
  · have position := spells.getElem?_idxOf positionsSize assigns (Trie.nil_mem_words _)
    rwa [spells.idxOf_nil, positionAt_nil] at position
  · intro fits node position isPosition
    rw [size_tablesOf_cells] at fits
    obtain ⟨inside, _⟩ := Array.getElem?_eq_some_iff.mp isPosition
    rw [positionsSize] at inside
    obtain ⟨word, listed, rfl⟩ := spells.exists_word inside
    rw [spells.getElem?_idxOf positionsSize assigns listed] at isPosition
    obtain rfl := Option.some.inj isPosition
    exact spells.shows fits strings failuresSize links positionsSize assigns listed
  · intro automaton built
    refine ⟨(of_ofSigns built).2, ?_⟩
    rw [stateCount_eq built, ← spells.perm_words.length_eq, spells.size]

/-- Three words without a common beginning: there are seven nodes, and the first one shows the node that
goes on from it with the greatest byte. -/
theorem pack_exact_seven :
    let signs : List Sign := [⟨[0xff, 0xff], 2, 0⟩, ⟨[0, 1], 2, 0⟩, ⟨[0x7a, 0x7a], 2, 0⟩]
    let trie := NumberedTrie.ofWords (signs.map Sign.word)
    let tables := tablesOf signs 1
    tables.cells.size ≤ tableLimit ∧ trie.child? NumberedTrie.root 0xff = some 1 ∧
      (∃ automaton, ofSigns signs 1 = .ok automaton ∧ automaton.stateCount = 7) ∧
      ∃ packed ∈ trie.pack, packed.positions[NumberedTrie.root]? = some 0 ∧
        trie.Shows packed tables NumberedTrie.root 0 ∧
        (tables.cell (0 + labelOf 0xff)).bears (labelOf 0xff) = true ∧
        packed.positions[1]? = some (tables.cell (0 + labelOf 0xff)).target := by
  intro signs trie tables
  have fits : tables.cells.size ≤ tableLimit := (size_cells_le signs 1).trans (by decide)
  have isChild : trie.child? NumberedTrie.root 0xff = some 1 := by decide
  have count : trie.size = 7 := by decide
  obtain ⟨packed, isPacked, _, _, _, atStart, _, _, shows, states⟩ := pack_exact signs 1
  obtain ⟨automaton, built⟩ : ∃ automaton, ofSigns signs 1 = .ok automaton :=
    ofSigns_ok (by rwa [← size_tablesOf_cells signs 1]) (by decide)
  have first := shows fits NumberedTrie.root 0 atStart
  exact ⟨fits, isChild, ⟨automaton, built, (states automaton built).2.trans count⟩, packed, isPacked,
    atStart, first, (first.bears_iff 0xff).mpr ⟨1, isChild⟩, first.target 0xff 1 isChild⟩

end Automaton

end ByteScan
