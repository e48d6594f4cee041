import ByteScan.Automaton.Trie
import Mathlib.Data.List.Infix
import Mathlib.Data.List.Nodup
import Mathlib.Data.List.Perm.Subperm

/-!
# Words of a trie

The words that `Trie.words` lists are the beginnings of the given words, each once, and the word of
a failure node is the longest shorter end of a word that is listed as well. What is said of the
listed words is said of any set of them that is closed under beginnings.
-/

namespace ByteScan

namespace Word

/-! ## The order of words -/

theorem precedes_total (first second : Word) :
    (precedes first second || precedes second first) = true := by
  simp only [precedes, Bool.or_eq_true, Bool.and_eq_true, decide_eq_true_eq, beq_iff_eq]
  rcases Nat.lt_trichotomy first.length second.length with shorter | same | longer
  · exact Or.inl (Or.inl shorter)
  · rcases List.le_total first second with before | after
    · exact Or.inl (Or.inr ⟨same, before⟩)
    · exact Or.inr (Or.inr ⟨same.symm, after⟩)
  · exact Or.inr (Or.inl longer)

theorem precedes_trans (first second third : Word) (before : precedes first second = true)
    (after : precedes second third = true) : precedes first third = true := by
  simp only [precedes, Bool.or_eq_true, Bool.and_eq_true, decide_eq_true_eq, beq_iff_eq]
    at before after ⊢
  rcases before with shorter | ⟨same, le⟩
  · left
    rcases after with shorter' | ⟨same', _⟩ <;> omega
  · rcases after with shorter' | ⟨same', le'⟩
    · left
      omega
    · exact Or.inr ⟨same.trans same', List.le_trans le le'⟩

theorem precedes_antisymm (first second : Word) (before : precedes first second = true)
    (after : precedes second first = true) : first = second := by
  simp only [precedes, Bool.or_eq_true, Bool.and_eq_true, decide_eq_true_eq, beq_iff_eq]
    at before after
  rcases before with shorter | ⟨same, le⟩
  · rcases after with shorter' | ⟨same', _⟩ <;> omega
  · rcases after with shorter' | ⟨_, le'⟩
    · omega
    · exact List.le_antisymm le le'

theorem length_le_of_precedes {first second : Word} (before : precedes first second = true) :
    first.length ≤ second.length := by
  simp only [precedes, Bool.or_eq_true, Bool.and_eq_true, decide_eq_true_eq, beq_iff_eq] at before
  omega

theorem mem_beginnings (word start : Word) : start ∈ beginnings word ↔ start <+: word := by
  simp only [beginnings, List.mem_map, List.mem_range]
  constructor
  · rintro ⟨length, _, rfl⟩
    exact List.take_prefix length word
  · intro begins
    exact ⟨start.length, Nat.lt_succ_of_le begins.length_le,
      (List.prefix_iff_eq_take.mp begins).symm⟩

theorem mem_dropRepeated (words : List Word) (word : Word) :
    word ∈ dropRepeated words ↔ word ∈ words := by
  fun_induction dropRepeated words with
  | case1 second words ih => simp [ih]
  | case2 first second words different ih =>
      rw [List.mem_cons, ih, List.mem_cons (a := word) (l := second :: words)]
  | case3 words short => rfl

theorem length_dropRepeated_le (words : List Word) : (dropRepeated words).length ≤ words.length := by
  fun_induction dropRepeated words with
  | case1 second words ih => exact Nat.le_succ_of_le ih
  | case2 first second words different ih => exact Nat.succ_le_succ ih
  | case3 words short => exact Nat.le_refl _

theorem pairwise_dropRepeated (words : List Word)
    (ordered : words.Pairwise fun first second => precedes first second = true) :
    (dropRepeated words).Pairwise fun first second =>
      precedes first second = true ∧ first ≠ second := by
  fun_induction dropRepeated words with
  | case1 second words ih => exact ih (List.pairwise_cons.mp ordered).2
  | case2 first second words different ih =>
      obtain ⟨before, rest⟩ := List.pairwise_cons.mp ordered
      refine List.pairwise_cons.mpr ⟨?_, ih rest⟩
      intro word member
      have listed := (mem_dropRepeated _ word).mp member
      refine ⟨before word listed, ?_⟩
      rintro rfl
      -- A word that came again would stand between its neighbour and itself.
      have after : precedes second first = true := by
        rcases List.mem_cons.mp listed with rfl | later
        · exact absurd rfl different
        · exact (List.pairwise_cons.mp rest).1 first later
      exact different (precedes_antisymm first second (before second (List.mem_cons_self ..)) after)
  | case3 words short =>
      cases words with
      | nil => exact List.Pairwise.nil
      | cons word rest =>
          cases rest with
          | nil => exact List.pairwise_singleton ..
          | cons next rest => exact absurd rfl (short word next rest)

end Word

namespace Trie

/-! ## The listed words -/

theorem mem_words (given : List Word) (word : Word) :
    word ∈ words given ↔ word = [] ∨ ∃ longer ∈ given, word <+: longer := by
  simp only [words, Word.mem_dropRepeated, List.mem_mergeSort, List.mem_cons, List.mem_flatMap,
    Word.mem_beginnings]

theorem nil_mem_words (given : List Word) : [] ∈ words given :=
  (mem_words given []).mpr (Or.inl rfl)

theorem mem_words_of_mem {given : List Word} {word : Word} (member : word ∈ given) :
    word ∈ words given :=
  (mem_words given word).mpr (Or.inr ⟨word, member, List.prefix_rfl⟩)

theorem mem_words_of_prefix {given : List Word} {start word : Word} (begins : start <+: word)
    (member : word ∈ words given) : start ∈ words given := by
  rcases (mem_words given word).mp member with rfl | ⟨longer, isGiven, begins'⟩
  · rw [List.prefix_nil.mp begins]
    exact nil_mem_words given
  · exact (mem_words given start).mpr (Or.inr ⟨longer, isGiven, begins.trans begins'⟩)

theorem words_ordered (given : List Word) :
    (words given).Pairwise fun first second =>
      Word.precedes first second = true ∧ first ≠ second :=
  Word.pairwise_dropRepeated _
    (List.pairwise_mergeSort Word.precedes_trans Word.precedes_total _)

theorem words_nodup (given : List Word) : (words given).Nodup :=
  (words_ordered given).imp fun both => both.2

theorem length_words_le (given : List Word) :
    (words given).length ≤ (given.flatMap Word.beginnings).length + 1 := by
  have bound := Word.length_dropRepeated_le
    (([] :: given.flatMap Word.beginnings).mergeSort Word.precedes)
  rwa [List.length_mergeSort, List.length_cons] at bound

/-- A word has fewer bytes than there are words, as all that begins it is listed too. -/
theorem length_lt_length_words {given : List Word} {word : Word} (member : word ∈ words given) :
    word.length < (words given).length := by
  have distinct : (Word.beginnings word).Nodup := by
    refine List.Nodup.map_on ?_ List.nodup_range
    intro left inLeft right inRight same
    have lengths := congrArg List.length same
    simp only [List.mem_range] at inLeft inRight
    simp only [List.length_take] at lengths
    omega
  have listed : Word.beginnings word ⊆ words given := fun start begins =>
    mem_words_of_prefix ((Word.mem_beginnings word start).mp begins) member
  have bound := (List.Nodup.subperm distinct listed).length_le
  simp only [Word.beginnings, List.length_map, List.length_range] at bound
  omega

/-! ## Nodes -/

private theorem contains_foldl_insert (words : List Word) (known : Std.HashMap Word Unit)
    (word : Word) :
    (words.foldl (fun known word => known.insert word ()) known).contains word =
      (decide (word ∈ words) || known.contains word) := by
  induction words generalizing known with
  | nil => simp
  | cons first rest ih =>
      rw [List.foldl_cons, ih, Std.HashMap.contains_insert]
      by_cases same : first = word
      · subst same
        simp
      · simp [beq_false_of_ne same, Ne.symm same]

theorem contains_index (words : List Word) (word : Word) :
    (index words).contains word = decide (word ∈ words) := by
  rw [index, contains_foldl_insert, Std.HashMap.contains_empty, Bool.or_false]

theorem mem_allBytes (byte : UInt8) : byte ∈ allBytes := by
  refine List.mem_map.mpr ⟨byte.toNat, List.mem_range.mpr byte.toNat_lt, ?_⟩
  exact UInt8.ofNat_toNat

theorem allBytes_nodup : allBytes.Nodup := by
  refine List.Nodup.map_on ?_ List.nodup_range
  intro left inLeft right inRight same
  have numbers := congrArg UInt8.toNat same
  rw [List.mem_range] at inLeft inRight
  rwa [UInt8.toNat_ofNat_of_lt' inLeft, UInt8.toNat_ofNat_of_lt' inRight] at numbers

theorem nodes_map_word (given : List Word) : (nodes given).map TrieNode.word = words given := by
  simp only [nodes, List.map_map]
  exact List.map_id _

theorem mem_children {given : List Word} {node : TrieNode} (member : node ∈ nodes given)
    (byte : UInt8) : byte ∈ node.children ↔ node.word ++ [byte] ∈ words given := by
  obtain ⟨word, _, rfl⟩ := List.mem_map.mp member
  simp [mem_allBytes, contains_index]

theorem children_nodup {given : List Word} {node : TrieNode} (member : node ∈ nodes given) :
    node.children.Nodup := by
  obtain ⟨word, _, rfl⟩ := List.mem_map.mp member
  exact List.Nodup.filter _ allBytes_nodup

theorem word_mem_words {given : List Word} {node : TrieNode} (member : node ∈ nodes given) :
    node.word ∈ words given := by
  rw [← nodes_map_word]
  exact List.mem_map_of_mem member

/-! ## Failure words -/

variable {isNode : Word → Bool}

theorem failureWord_suffix (isNode : Word → Bool) (word : Word) :
    failureWord isNode word <:+ word.tail := by
  induction word with
  | nil => exact List.suffix_rfl
  | cons byte rest ih =>
      simp only [failureWord, List.tail_cons]
      split
      · exact List.suffix_rfl
      · exact ih.trans (List.tail_suffix rest)

theorem failureWord_isNode (root : isNode [] = true) (word : Word) :
    isNode (failureWord isNode word) = true := by
  induction word with
  | nil => exact root
  | cons byte rest ih =>
      simp only [failureWord]
      split
      · assumption
      · exact ih

theorem suffix_failureWord {word ending : Word} (ends : ending <:+ word.tail)
    (node : isNode ending = true) : ending <:+ failureWord isNode word := by
  induction word with
  | nil => exact ends
  | cons byte rest ih =>
      simp only [failureWord, List.tail_cons] at ends ⊢
      split
      · exact ends
      · rename_i other
        cases rest with
        | nil =>
            rw [List.suffix_nil.mp ends] at node
            exact absurd node other
        | cons byte' rest =>
            rcases List.suffix_cons_iff.mp ends with rfl | ends'
            · exact absurd node other
            · exact ih ends'

theorem length_failureWord_lt (isNode : Word → Bool) {word : Word} (filled : word ≠ []) :
    (failureWord isNode word).length < word.length := by
  have bound := (failureWord_suffix isNode word).length_le
  have positive := List.length_pos_iff.mpr filled
  rw [List.length_tail] at bound
  omega

/-- The longest end of a word that is a node, the word itself included. -/
def longestEnd (isNode : Word → Bool) (word : Word) : Word :=
  if isNode word then word else failureWord isNode word

theorem longestEnd_suffix (isNode : Word → Bool) (word : Word) :
    longestEnd isNode word <:+ word := by
  unfold longestEnd
  split
  · exact List.suffix_rfl
  · exact (failureWord_suffix isNode word).trans (List.tail_suffix word)

theorem longestEnd_isNode (root : isNode [] = true) (word : Word) :
    isNode (longestEnd isNode word) = true := by
  unfold longestEnd
  split
  · assumption
  · exact failureWord_isNode root word

theorem suffix_longestEnd {word ending : Word} (ends : ending <:+ word)
    (node : isNode ending = true) : ending <:+ longestEnd isNode word := by
  unfold longestEnd
  split
  · exact ends
  · rename_i other
    cases word with
    | nil =>
        rw [List.suffix_nil.mp ends] at node
        exact absurd node other
    | cons byte rest =>
        rcases List.suffix_cons_iff.mp ends with rfl | ends'
        · exact absurd node other
        · exact suffix_failureWord ends' node

/-- An end of a word that is a node and no shorter than any other such end is the longest one. -/
theorem eq_longestEnd {word ending : Word} (ends : ending <:+ word) (node : isNode ending = true)
    (longest : longestEnd isNode word <:+ ending) : ending = longestEnd isNode word :=
  (suffix_longestEnd ends node).eq_of_length_le longest.length_le

end Trie

end ByteScan
