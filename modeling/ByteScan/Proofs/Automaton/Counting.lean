import ByteScan.Proofs.Automaton.Checked

/-!
# The number of states

Every word but the empty one has one cell that leads to its node: the transition from the word without
its last byte. These cells are all that count as transitions, so there are as many states as words.
-/

namespace ByteScan.Automaton

variable {signs : List Sign} {strings : Nat}

def entranceOf (signs : List Sign) (word : Word) : Nat :=
  positionAt signs word.dropLast + labelOf (word.getLast?.getD 0)

theorem entranceOf_concat (signs : List Sign) (word : Word) (byte : UInt8) :
    entranceOf signs (word ++ [byte]) = positionAt signs word + labelOf byte := by
  rw [entranceOf, List.dropLast_concat, List.getLast?_concat, Option.getD_some]

theorem key_entranceOf (strings : Nat) {word : Word} (listed : word ∈ wordsOf signs) (filled : word ≠ []) :
    ∃ start byte, word = start ++ [byte] ∧ start ∈ wordsOf signs ∧
      entranceOf signs word = positionAt signs start + labelOf byte ∧
      ((tablesOf signs strings).cell (entranceOf signs word)).key = labelOf byte := by
  obtain ⟨start, byte, rfl⟩ := (List.eq_nil_or_concat' word).resolve_left filled
  have before : start ∈ wordsOf signs := Trie.mem_words_of_prefix (List.prefix_append _ _) listed
  have place := entranceOf_concat signs start byte
  refine ⟨start, byte, rfl, before, place, ?_⟩
  rw [place, cell_of_mem_allWrites ((writes_of_word before).2 byte listed), key_transition]

theorem entranceOf_injective {first second : Word} (inFirst : first ∈ wordsOf signs)
    (inSecond : second ∈ wordsOf signs) (filled : first ≠ []) (filled' : second ≠ [])
    (same : entranceOf signs first = entranceOf signs second) : first = second := by
  obtain ⟨start, byte, rfl, listed, place, key⟩ := key_entranceOf 0 inFirst filled
  obtain ⟨start', byte', rfl, listed', place', key'⟩ := key_entranceOf 0 inSecond filled'
  rw [same, key'] at key
  obtain rfl := Placing.labelOf_injective key
  rw [place, place'] at same
  rw [positionAt_injective listed listed' (Nat.add_right_cancel same)]

/-- A cell that bears a label is the transition that leads to the node of some word. -/
theorem exists_entranceOf {index : Nat} (labelled : ((tablesOf signs strings).cell index).key ≠ 0) :
    ∃ word ∈ wordsOf signs, word ≠ [] ∧ entranceOf signs word = index := by
  rcases cell_cases signs strings index with blank | written
  · rw [blank] at labelled
    exact absurd rfl labelled
  · obtain ⟨start, _, ⟨_, link⟩ | ⟨byte, goesOn, place, _⟩⟩ := allWrites_cases written
    · rw [link] at labelled
      exact absurd (key_failure _) labelled
    · refine ⟨start ++ [byte], goesOn, ?_, ?_⟩
      · exact List.append_ne_nil_of_right_ne_nil _ (List.cons_ne_nil _ _)
      · rw [entranceOf_concat, place]

def entrances (automaton : Automaton) : List Nat :=
  (automaton.cells.toList.zipIdx.filter fun entry => isTransition entry.2 entry.1).map Prod.snd

theorem stateCount_eq_length_entrances (automaton : Automaton) :
    automaton.stateCount = 1 + automaton.entrances.length := by
  rw [stateCount, entrances, List.length_map, List.countP_eq_length_filter]

theorem entrances_nodup (automaton : Automaton) : automaton.entrances.Nodup := by
  have indices : (automaton.cells.toList.zipIdx.map Prod.snd).Nodup := by
    rw [List.zipIdx_map_snd]
    exact List.nodup_range'
  exact indices.sublist (List.filter_sublist.map Prod.snd)

theorem mem_entrances {automaton : Automaton} {index : Nat} :
    index ∈ automaton.entrances ↔ index < automaton.cells.size ∧
      (automaton.cell index).key ≠ 0 ∧ (automaton.cell index).key ≤ index := by
  have shown (inside : index < automaton.cells.size) :
      automaton.cells.toList[index]? = some (automaton.cell index) := by
    rw [Array.getElem?_toList, Tables.cell, Array.getD_eq_getD_getElem?,
      Array.getElem?_eq_getElem inside, Option.getD_some]
  simp only [entrances, List.mem_map, List.mem_filter, List.mem_zipIdx_iff_getElem?, isTransition,
    Bool.and_eq_true, decide_eq_true_eq]
  constructor
  · rintro ⟨⟨cell, place⟩, ⟨found, labelled, reaches⟩, rfl⟩
    obtain ⟨inside, _⟩ := List.getElem?_eq_some_iff.mp found
    have same : cell = automaton.cell place := Option.some.inj (found.symm.trans (shown inside))
    rw [← same]
    exact ⟨inside, labelled, reaches⟩
  · rintro ⟨inside, labelled, reaches⟩
    exact ⟨(automaton.cell index, index), ⟨shown inside, labelled, reaches⟩, rfl⟩

/-- There is one state for every word. -/
theorem stateCount_eq {automaton : Automaton} (built : ofSigns signs strings = .ok automaton) :
    automaton.stateCount = (wordsOf signs).length := by
  obtain ⟨_, tables⟩ := of_ofSigns built
  have filled {word : Word} (member : word ∈ (wordsOf signs).erase []) :
      word ∈ wordsOf signs ∧ word ≠ [] := by
    obtain ⟨filled, listed⟩ := (Trie.words_nodup _).mem_erase_iff.mp member
    exact ⟨listed, filled⟩
  have distinct : (((wordsOf signs).erase []).map (entranceOf signs)).Nodup := by
    refine List.Nodup.map_on ?_ ((Trie.words_nodup _).erase _)
    intro first inFirst second inSecond same
    exact entranceOf_injective (filled inFirst).1 (filled inSecond).1 (filled inFirst).2
      (filled inSecond).2 same
  have same : automaton.entrances.Perm (((wordsOf signs).erase []).map (entranceOf signs)) := by
    refine (List.perm_ext_iff_of_nodup (entrances_nodup automaton) distinct).mpr ?_
    intro index
    rw [mem_entrances, List.mem_map, tables]
    constructor
    · rintro ⟨_, labelled, _⟩
      obtain ⟨word, listed, isLong, place⟩ := exists_entranceOf labelled
      exact ⟨word, (Trie.words_nodup _).mem_erase_iff.mpr ⟨isLong, listed⟩, place⟩
    · rintro ⟨word, member, rfl⟩
      obtain ⟨start, byte, rfl, before, place, key⟩ :=
        key_entranceOf strings (filled member).1 (filled member).2
      have positive := Placing.labelOf_pos byte
      have label := Placing.labelOf_lt_stateSpan byte
      have bound := positionAt_add_le before
      rw [key, place, size_tablesOf_cells]
      omega
  have root : [] ∈ wordsOf signs := Trie.nil_mem_words _
  rw [stateCount_eq_length_entrances, same.length_eq, List.length_map, List.length_erase_of_mem root]
  exact Nat.add_sub_cancel' (List.length_pos_of_mem root)

end ByteScan.Automaton
