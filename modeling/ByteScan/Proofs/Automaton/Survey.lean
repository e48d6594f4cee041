import ByteScan.Proofs.Automaton.Cells

/-!
# Going through the states of a table

`Tables.reach` goes through the states level by level. In the table of a trie it finds the position
of every word once, at a depth that is the length of the word: `Surveyed` says what is known of the
words found so far, and `Frontier` which words these are.
-/

namespace ByteScan.Automaton

open Tables

variable {signs : List Sign} {strings : Nat}

/-! ## Visiting the words that go on from one word -/

/-- The positions of some words have been found, each at the depth of its word. -/
structure Surveyed (signs : List Sign) (words : List Word) (found : Survey) : Prop where
  /-- They have been found in the order of the words. -/
  order : found.order.toList = words.map (positionAt signs)
  /-- Each of them has a node. -/
  listed : ∀ word ∈ words, word ∈ wordsOf signs
  /-- No other position of a word has been found. -/
  depth : ∀ word ∈ wordsOf signs,
    found.depths[positionAt signs word]? = some (if word ∈ words then some word.length else none)

theorem Surveyed.push {words : List Word} {found : Survey} (known : Surveyed signs words found)
    {word : Word} (member : word ∈ wordsOf signs) :
    Surveyed signs (words ++ [word])
      ⟨found.depths.setIfInBounds (positionAt signs word) (some word.length),
        found.order.push (positionAt signs word)⟩ where
  order := by rw [Array.toList_push, known.order, List.map_append, List.map_singleton]
  listed := by
    intro other inWords
    rcases List.mem_append.mp inWords with before | isLast
    · exact known.listed other before
    · rwa [List.mem_singleton.mp isLast]
  depth := by
    intro other otherListed
    by_cases same : other = word
    · subst same
      have inside := (Array.getElem?_eq_some_iff.mp (known.depth other member)).1
      rw [Array.getElem?_setIfInBounds_self_of_lt inside, if_pos (by simp)]
    · have apart : positionAt signs word ≠ positionAt signs other :=
        fun equal => same (positionAt_injective member otherListed equal).symm
      rw [Array.getElem?_setIfInBounds_ne apart, known.depth other otherListed]
      simp [same]

section

variable (fits : tableSize (placedOf signs) ≤ tableLimit)
include fits

variable (strings) in
theorem visit_word {words : List Word} {found : Survey} (known : Surveyed signs words found)
    {word : Word} (member : word ∈ wordsOf signs) {byte : UInt8} (fresh : word ++ [byte] ∉ words) :
    ∃ after, (tablesOf signs strings).visit (positionAt signs word) word.length found
        (labelOf byte) = .ok after ∧
      Surveyed signs (words ++ if isNode signs (word ++ [byte]) then [word ++ [byte]] else [])
        after := by
  rw [visit, transition?_positionAt fits member]
  by_cases goesOn : word ++ [byte] ∈ wordsOf signs
  · have node : isNode signs (word ++ [byte]) = true := decide_eq_true goesOn
    have unseen := known.depth (word ++ [byte]) goesOn
    rw [if_neg fresh] at unseen
    have pushed := known.push goesOn
    rw [List.length_append, List.length_singleton] at pushed
    simp only [node, if_true, unseen]
    exact ⟨_, rfl, pushed⟩
  · have other : isNode signs (word ++ [byte]) = false := decide_eq_false goesOn
    simp only [other, Bool.false_eq_true, if_false, List.append_nil]
    exact ⟨found, rfl, known⟩

def nextWords (signs : List Sign) (word : Word) (bytes : List UInt8) : List Word :=
  (bytes.map fun byte => word ++ [byte]).filter (isNode signs)

omit fits in
theorem nextWords_cons (word : Word) (byte : UInt8) (rest : List UInt8) :
    nextWords signs word (byte :: rest) =
      (if isNode signs (word ++ [byte]) then [word ++ [byte]] else []) ++
        nextWords signs word rest := by
  simp only [nextWords, List.map_cons, List.filter_cons]
  split <;> rfl

omit fits in
theorem mem_nextWords {word next : Word} :
    next ∈ nextWords signs word Trie.allBytes ↔
      next ∈ wordsOf signs ∧ ∃ byte, next = word ++ [byte] := by
  simp only [nextWords, List.mem_filter, List.mem_map, isNode, decide_eq_true_eq]
  constructor
  · rintro ⟨⟨byte, _, rfl⟩, listed⟩
    exact ⟨listed, byte, rfl⟩
  · rintro ⟨listed, byte, rfl⟩
    exact ⟨⟨byte, Trie.mem_allBytes byte, rfl⟩, listed⟩

omit fits in
theorem nextWords_nodup (word : Word) : (nextWords signs word Trie.allBytes).Nodup := by
  refine List.Nodup.filter _ (List.Nodup.map_on ?_ Trie.allBytes_nodup)
  intro left _ right _ same
  exact List.singleton_inj.mp (List.append_cancel_left same)

variable (strings) in
theorem visit_bytes {bytes : List UInt8} (distinct : bytes.Nodup) {words : List Word}
    {found : Survey} (known : Surveyed signs words found) {word : Word}
    (member : word ∈ wordsOf signs) (fresh : ∀ byte ∈ bytes, word ++ [byte] ∉ words) :
    ∃ after, (bytes.map labelOf).foldlM
        ((tablesOf signs strings).visit (positionAt signs word) word.length) found = .ok after ∧
      Surveyed signs (words ++ nextWords signs word bytes) after := by
  induction bytes generalizing words found with
  | nil =>
      refine ⟨found, rfl, ?_⟩
      rwa [nextWords, List.map_nil, List.filter_nil, List.append_nil]
  | cons byte rest ih =>
      obtain ⟨absent, distinct'⟩ := List.nodup_cons.mp distinct
      obtain ⟨between, visited, known'⟩ :=
        visit_word strings fits known member (fresh byte (List.mem_cons_self ..))
      have fresh' : ∀ other ∈ rest, word ++ [other] ∉
          words ++ if isNode signs (word ++ [byte]) then [word ++ [byte]] else [] := by
        intro other inRest inWords
        rcases List.mem_append.mp inWords with before | isNew
        · exact fresh other (List.mem_cons_of_mem _ inRest) before
        · split at isNew
          · have same := List.append_cancel_left (List.mem_singleton.mp isNew)
            rw [List.singleton_inj] at same
            exact absent (same ▸ inRest)
          · cases isNew
      obtain ⟨after, rest_visited, known''⟩ := ih distinct' known' fresh'
      refine ⟨after, ?_, ?_⟩
      · rw [List.map_cons, List.foldlM_cons, visited]
        exact rest_visited
      · rwa [nextWords_cons, ← List.append_assoc]

end

theorem labels_eq : labels = Trie.allBytes.map labelOf := by
  rw [labels, Trie.allBytes, List.map_map]
  refine List.map_congr_left ?_
  intro code inRange
  rw [List.mem_range] at inRange
  simp only [Function.comp_apply, labelOf]
  rw [UInt8.toNat_ofNat_of_lt' inRange]

/-! ## Going through all words -/

/-- The words found so far, when the first `cursor` of them have been gone through. -/
structure Frontier (signs : List Sign) (cursor : Nat) (words : List Word) : Prop where
  /-- No word has been found twice. -/
  nodup : words.Nodup
  /-- The empty word comes first. -/
  head : words.head? = some []
  /-- The words found are those that go on from a word that has been gone through. -/
  next : ∀ word byte, word ++ [byte] ∈ words ↔
    word ∈ words.take cursor ∧ word ++ [byte] ∈ wordsOf signs

theorem Frontier.start (signs : List Sign) : Frontier signs 0 [[]] where
  nodup := List.nodup_singleton _
  head := rfl
  next := by simp

theorem Frontier.step {cursor : Nat} {words : List Word} (frontier : Frontier signs cursor words)
    {word : Word} (current : words[cursor]? = some word) :
    (∀ byte, word ++ [byte] ∉ words) ∧
      Frontier signs (cursor + 1) (words ++ nextWords signs word Trie.allBytes) := by
  obtain ⟨inside, rfl⟩ := List.getElem?_eq_some_iff.mp current
  have unseen : words[cursor] ∉ words.take cursor := by
    have distinct := frontier.nodup
    rw [← List.take_append_drop cursor words] at distinct
    rw [List.drop_eq_getElem_cons inside] at distinct
    intro member
    exact (List.nodup_append.mp distinct).2.2 _ member _ (List.mem_cons_self ..) rfl
  have fresh : ∀ byte, words[cursor] ++ [byte] ∉ words :=
    fun byte member => unseen ((frontier.next _ byte).mp member).1
  refine ⟨fresh, ?_, ?_, ?_⟩
  · refine List.nodup_append.mpr ⟨frontier.nodup, nextWords_nodup _, ?_⟩
    rintro left inWords right isNext rfl
    obtain ⟨_, byte, rfl⟩ := mem_nextWords.mp isNext
    exact fresh byte inWords
  · rw [List.head?_append, frontier.head]
    rfl
  · intro other byte
    have short : cursor + 1 ≤ words.length := inside
    rw [List.take_append_of_le_length short, List.take_add_one, current, List.mem_append,
      frontier.next, mem_nextWords, List.mem_append]
    simp only [Option.toList_some, List.mem_singleton]
    constructor
    · rintro (⟨before, listed⟩ | ⟨listed, byte', same⟩)
      · exact ⟨Or.inl before, listed⟩
      · exact ⟨Or.inr (List.append_inj_left' same rfl), listed⟩
    · rintro ⟨before | rfl, listed⟩
      · exact Or.inl ⟨before, listed⟩
      · exact Or.inr ⟨listed, byte, rfl⟩

theorem Frontier.complete {cursor : Nat} {words : List Word}
    (frontier : Frontier signs cursor words) (all : words.length ≤ cursor) {word : Word}
    (listed : word ∈ wordsOf signs) : word ∈ words := by
  induction word using List.reverseRecOn with
  | nil => exact List.mem_of_mem_head? frontier.head
  | append_singleton start byte ih =>
      have start_listed := Trie.mem_words_of_prefix (List.prefix_append start [byte]) listed
      rw [frontier.next, List.take_of_length_le all]
      exact ⟨ih start_listed, listed⟩

theorem length_wordsOf_le (signs : List Sign) :
    (wordsOf signs).length ≤ tableSize (placedOf signs) := by
  have distinct : ((wordsOf signs).map (positionAt signs)).Nodup :=
    List.Nodup.map_on (fun _ inLeft _ inRight => positionAt_injective inLeft inRight)
      (Trie.words_nodup _)
  have inside : (wordsOf signs).map (positionAt signs) ⊆ List.range (tableSize (placedOf signs)) := by
    intro position member
    obtain ⟨word, listed, rfl⟩ := List.mem_map.mp member
    have bound := positionAt_add_le listed
    have positive : 0 < stateSpan := by decide
    rw [List.mem_range]
    omega
  simpa using (List.Nodup.subperm distinct inside).length_le

section

variable (fits : tableSize (placedOf signs) ≤ tableLimit)
include fits

/-- Going through the words found so far finds the rest. -/
theorem survey_words (left cursor : Nat) {words : List Word} {found : Survey}
    (known : Surveyed signs words found) (frontier : Frontier signs cursor words)
    (enough : tableSize (placedOf signs) ≤ cursor + left) :
    ∃ all after, (tablesOf signs strings).survey left cursor found = .ok after ∧
      Surveyed signs all after ∧ all.Nodup ∧ all.head? = some [] ∧
      ∀ word ∈ wordsOf signs, word ∈ all := by
  have count : words.length ≤ tableSize (placedOf signs) := by
    have within := (List.Nodup.subperm frontier.nodup known.listed).length_le
    exact Nat.le_trans within (length_wordsOf_le signs)
  have done (all : words.length ≤ cursor) :
      ∃ all after, Except.ok (ε := Fault) found = .ok after ∧ Surveyed signs all after ∧
        all.Nodup ∧ all.head? = some [] ∧ ∀ word ∈ wordsOf signs, word ∈ all :=
    ⟨words, found, rfl, known, frontier.nodup, frontier.head, fun _ => frontier.complete all⟩
  induction left generalizing cursor words found with
  | zero => exact done (by omega)
  | succ left ih =>
      have at_cursor : found.order[cursor]? = words[cursor]?.map (positionAt signs) := by
        rw [← Array.getElem?_toList, known.order, List.getElem?_map]
      cases current : words[cursor]? with
      | none =>
          rw [survey, at_cursor, current]
          exact done (List.getElem?_eq_none_iff.mp current)
      | some word =>
          have inWords := List.mem_of_getElem? current
          have listed := known.listed word inWords
          obtain ⟨fresh, frontier'⟩ := frontier.step current
          obtain ⟨between, visited, known'⟩ := visit_bytes strings fits
            Trie.allBytes_nodup known listed fun byte _ => fresh byte
          have depth : ((found.depths[positionAt signs word]?).getD none).getD 0 = word.length := by
            rw [known.depth word listed, if_pos inWords]
            rfl
          have rest := ih (cursor + 1) known' frontier' (by omega) (by
            have within := (List.Nodup.subperm frontier'.nodup known'.listed).length_le
            exact Nat.le_trans within (length_wordsOf_le signs)) (fun all => ⟨_, _, rfl, known',
              frontier'.nodup, frontier'.head, fun _ => frontier'.complete all⟩)
          rw [survey, at_cursor, current]
          simp only [Option.map_some, depth, labels_eq, visited]
          exact rest

omit fits in
theorem Surveyed.start (signs : List Sign) :
    Surveyed signs [[]]
      ⟨(Array.replicate (tableSize (placedOf signs)) none).setIfInBounds 0 (some 0), #[0]⟩ where
  order := by
    rw [List.map_singleton, positionAt_nil]
    rfl
  listed := by
    intro word member
    rw [List.mem_singleton.mp member]
    exact Trie.nil_mem_words _
  depth := by
    intro word listed
    have bound := positionAt_add_le listed
    have positive : 0 < stateSpan := by decide
    have inside : positionAt signs word < (Array.replicate (tableSize (placedOf signs))
        (none : Option Nat)).size := by
      rw [Array.size_replicate]
      omega
    rw [Array.getElem?_setIfInBounds, Array.getElem?_eq_getElem inside, Array.getElem_replicate]
    by_cases isRoot : word = []
    · subst isRoot
      have filled : tableSize (placedOf signs) ≠ 0 := by omega
      rw [positionAt_nil]
      simp [root, filled]
    · have apart : 0 ≠ positionAt signs word := by
        rw [← root.eq_1, ← positionAt_nil signs]
        exact fun same =>
          isRoot (positionAt_injective (Trie.nil_mem_words _) listed same).symm
      simp [apart, isRoot]

variable (strings) in
/-- All words are found from the first state. -/
theorem reach_tablesOf :
    ∃ all found, (tablesOf signs strings).reach = .ok found ∧ Surveyed signs all found ∧
      all.Nodup ∧ all.head? = some [] ∧ ∀ word ∈ wordsOf signs, word ∈ all := by
  rw [reach, size_tablesOf_cells]
  exact survey_words fits _ 0 (Surveyed.start signs) (Frontier.start signs) (by simp)

end

end ByteScan.Automaton
