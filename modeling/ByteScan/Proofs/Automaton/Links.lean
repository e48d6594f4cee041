import ByteScan.Proofs.Automaton.Levels
import ByteScan.Proofs.Automaton.Search
import ByteScan.Proofs.Items

/-!
# Failure links between nodes

Nodes are given their failure links level by level. The link of a child is found from that of its
parent: links are followed until a node goes on with the byte of the child. The search ends, as links
lead to shorter words and nearer nodes have their links already, and what it finds is the longest
shorter end of the word that has a node.
-/

namespace ByteScan

namespace NumberedTrie

open Automaton

/-- Follows failure links from a node until a node goes on with a byte; undefined if that never ends. -/
def resolve (trie : NumberedTrie) (failures : Array Nat) (byte : UInt8) : Nat → Part Nat :=
  loop fun node =>
    match trie.child? node byte with
    | some child => .inl child
    | none => if node = root then .inl root else .inr (failures.getD node 0)

def linkChild (trie : NumberedTrie) (node : Nat) (failures : Array Nat) (entry : UInt8 × Nat) :
    Part (Array Nat) := do
  let failure ←
    if node = root then pure root
    else trie.resolve failures entry.1 (failures.getD node 0)
  return failures.setIfInBounds entry.2 failure

def linkChildren (trie : NumberedTrie) (failures : Array Nat) (node : Nat) : Part (Array Nat) :=
  (trie.childrenOf node).foldlM (trie.linkChild node) failures

/-- The failure links of all nodes, which are taken in the order given. -/
def link (trie : NumberedTrie) (order : List Nat) : Part (Array Nat) :=
  order.foldlM trie.linkChildren (Array.replicate trie.size 0)

variable {signs : List Sign} {trie : NumberedTrie} {names : List Word} {word : Word} {byte : UInt8}

/-! ## Values of nodes -/

/-- The nodes of some words have the values that belong to the words. -/
def Assigns (values : Array Nat) (names : List Word) (valueOf : Word → Nat) (words : List Word) :
    Prop :=
  ∀ word ∈ words, values.getD (names.idxOf word) 0 = valueOf word

theorem Spells.assigns_set (spells : trie.Spells signs names) {values : Array Nat}
    {valueOf : Word → Nat} {words : List Word} (assigns : Assigns values names valueOf words)
    (listed : word ∈ wordsOf signs) (size : values.size = trie.size) :
    Assigns (values.setIfInBounds (names.idxOf word) (valueOf word)) names valueOf
      (words ++ [word]) := by
  have inside := spells.lt_size (spells.named listed)
  rw [← size] at inside
  intro other member
  by_cases same : word = other
  · subst same
    exact getD_setIfInBounds_self inside
  · have isOther : names.idxOf word ≠ names.idxOf other :=
      fun equal => same (spells.idxOf_injective listed equal)
    rw [getD_setIfInBounds_ne isOther]
    rcases List.mem_append.mp member with before | isLast
    · exact assigns other before
    · exact absurd (List.mem_singleton.mp isLast).symm same

/-! ## Following links -/

section

variable {failures : Array Nat} {node child : Nat}

theorem resolve_of_child (isChild : trie.child? node byte = some child) :
    trie.resolve failures byte node = Part.some child :=
  loop_of_result (by rw [isChild])

theorem resolve_root (noChild : trie.child? root byte = none) :
    trie.resolve failures byte root = Part.some root :=
  loop_of_result (by rw [noChild]; rfl)

theorem resolve_of_failure (noChild : trie.child? node byte = none) (isOther : node ≠ root) :
    trie.resolve failures byte node = trie.resolve failures byte (failures.getD node 0) :=
  loop_of_next (by simp only [noChild, if_neg isOther])

end

def failureNode (signs : List Sign) (names : List Word) (word : Word) : Nat :=
  names.idxOf (failureOf signs word)

section

variable (spells : trie.Spells signs names)
include spells

theorem Spells.child?_eq (listed : word ∈ wordsOf signs) :
    trie.child? (names.idxOf word) byte =
      if isNode signs (word ++ [byte]) then some (names.idxOf (word ++ [byte])) else none := by
  have isNamed := spells.named listed
  simp only [isNode, decide_eq_true_eq]
  split
  · rename_i goesOn
    exact (spells.child?_eq_some_iff isNamed).mpr (spells.named goesOn)
  · rename_i goesNotOn
    exact (spells.child?_eq_none_iff isNamed).mpr fun member =>
      goesNotOn ((spells.members _).mp member)

/-- If the links of all words up to some length are right, following them from such a word finds the
longest end of the word and a byte. -/
theorem Spells.resolve_eq (byte : UInt8) {failures : Array Nat} {words : List Word}
    (assigns : Assigns failures names (failureNode signs names) words)
    (listed : word ∈ wordsOf signs)
    (linked : ∀ other ∈ wordsOf signs, other.length ≤ word.length → other ∈ words) :
    trie.resolve failures byte (names.idxOf word) =
      Part.some (names.idxOf (Trie.longestEnd (isNode signs) (word ++ [byte]))) := by
  induction length : word.length using Nat.strong_induction_on generalizing word with
  | h length ih =>
      subst length
      have isChild : trie.child? (names.idxOf word) byte = _ := spells.child?_eq listed
      by_cases goesOn : isNode signs (word ++ [byte]) = true
      · rw [if_pos goesOn] at isChild
        rw [resolve_of_child isChild, Trie.longestEnd, if_pos goesOn]
      · rw [if_neg goesOn] at isChild
        by_cases isRoot : word = []
        · subst isRoot
          rw [spells.idxOf_nil] at isChild ⊢
          rw [resolve_root isChild, List.nil_append, longestEnd_singleton goesOn, spells.idxOf_nil]
        · have shorter := Trie.length_failureWord_lt (isNode signs) isRoot
          rw [resolve_of_failure isChild (spells.idxOf_ne_root listed isRoot),
            assigns word (linked word listed (Nat.le_refl _)), longestEnd_of_failure isRoot goesOn]
          refine ih _ shorter (failureOf_mem signs word) ?_ rfl
          intro other otherListed bound
          exact linked other otherListed (Nat.le_trans bound (Nat.le_of_lt shorter))

/-! ## Linking all nodes -/

theorem Spells.linkChild_eq (byte : UInt8) {failures : Array Nat} {words : List Word}
    (assigns : Assigns failures names (failureNode signs names) words)
    (listed : word ∈ wordsOf signs)
    (linked : ∀ other ∈ wordsOf signs, other.length ≤ word.length → other ∈ words) :
    trie.linkChild (names.idxOf word) failures (byte, names.idxOf (word ++ [byte])) =
      Part.some (failures.setIfInBounds (names.idxOf (word ++ [byte]))
        (failureNode signs names (word ++ [byte]))) := by
  cases word with
  | nil =>
      rw [linkChild, if_pos spells.idxOf_nil, failureNode, List.nil_append, failureOf,
        failureWord_cons, Trie.longestEnd, isNode_nil, if_pos rfl, spells.idxOf_nil]
      exact Part.bind_some _ _
  | cons first rest =>
      have filled : first :: rest ≠ [] := List.cons_ne_nil _ _
      have shorter := Trie.length_failureWord_lt (isNode signs) filled
      have found := spells.resolve_eq byte assigns (failureOf_mem signs (first :: rest))
        fun other otherListed bound => linked other otherListed (bound.trans shorter.le)
      rw [linkChild, if_neg (spells.idxOf_ne_root listed filled),
        assigns _ (linked _ listed (Nat.le_refl _)), failureNode, found, failureNode,
        List.cons_append, failureOf, failureOf, failureWord_cons, failureWord_cons,
        ← longestEnd_append]
      exact Part.bind_some _ _

theorem Spells.linkChildren_eq {failures : Array Nat} {words : List Word}
    (size : failures.size = trie.size)
    (assigns : Assigns failures names (failureNode signs names) words)
    (listed : word ∈ wordsOf signs)
    (linked : ∀ other ∈ wordsOf signs, other.length ≤ word.length → other ∈ words) :
    ∃ after, trie.linkChildren failures (names.idxOf word) = Part.some after ∧ after.size = trie.size ∧
      Assigns after names (failureNode signs names)
        (words ++ nextWords signs word Trie.allBytes) := by
  rw [linkChildren, spells.childrenOf_eq listed, nextWords_eq]
  have goOn : ∀ byte ∈ nextBytes signs word, word ++ [byte] ∈ wordsOf signs :=
    fun byte member => mem_nextBytes.mp member
  generalize nextBytes signs word = bytes at goOn
  induction bytes generalizing failures words with
  | nil =>
      refine ⟨failures, rfl, size, ?_⟩
      rwa [List.map_nil, List.append_nil]
  | cons byte bytes ih =>
      obtain ⟨goesOn, goOn'⟩ := List.forall_mem_cons.mp goOn
      have step := spells.linkChild_eq byte assigns listed linked
      have assigns' := spells.assigns_set assigns goesOn size
      obtain ⟨after, isAfter, size', rest⟩ := ih (by rwa [Array.size_setIfInBounds]) assigns'
        (fun other otherListed bound => List.mem_append_left _ (linked other otherListed bound)) goOn'
      refine ⟨after, ?_, size', ?_⟩
      · rw [List.map_cons, List.foldlM_cons, step]
        exact (Part.bind_some _ _).trans isAfter
      · rwa [List.map_cons, List.append_cons]

/-- When some words have been gone through, what goes on from them has its links. -/
theorem Spells.foldlM_linkChildren (rest done : List Word) {failures : Array Nat}
    (split : wordsOf signs = done ++ rest) (size : failures.size = trie.size)
    (assigns : Assigns failures names (failureNode signs names)
      ([] :: done.flatMap fun word => nextWords signs word Trie.allBytes)) :
    ∃ after, (rest.map names.idxOf).foldlM trie.linkChildren failures = Part.some after ∧
      after.size = trie.size ∧ Assigns after names (failureNode signs names)
        ([] :: (wordsOf signs).flatMap fun word => nextWords signs word Trie.allBytes) := by
  induction rest generalizing done failures with
  | nil =>
      rw [List.append_nil] at split
      rw [split]
      exact ⟨failures, rfl, size, assigns⟩
  | cons word rest ih =>
      have listed : word ∈ wordsOf signs := by
        rw [split]
        exact List.mem_append_right _ (List.mem_cons_self ..)
      obtain ⟨between, isBetween, size', assigns'⟩ :=
        spells.linkChildren_eq size assigns listed fun other => mem_of_length_le split
      obtain ⟨after, isAfter, rest⟩ := ih (done ++ [word])
        (by rw [split, List.append_assoc]; rfl) size'
        (by rwa [List.flatMap_append, List.flatMap_singleton])
      refine ⟨after, ?_, rest⟩
      rw [List.map_cons, List.foldlM_cons, isBetween]
      exact (Part.bind_some _ _).trans isAfter

/-- Linking goes through all nodes, and the links lead to the failure words. -/
theorem Spells.link_eq :
    ∃ failures, trie.link ((wordsOf signs).map names.idxOf) = Part.some failures ∧
      failures.size = trie.size ∧
      Assigns failures names (failureNode signs names) (wordsOf signs) := by
  have blank : Assigns (Array.replicate trie.size 0) names (failureNode signs names) [[]] := by
    intro word member
    rw [List.mem_singleton.mp member, getD_replicate]
    exact spells.idxOf_nil.symm
  obtain ⟨failures, linked, size, assigns⟩ :=
    spells.foldlM_linkChildren (wordsOf signs) [] rfl Array.size_replicate blank
  rw [← wordsOf_eq] at assigns
  exact ⟨failures, linked, size, assigns⟩

end

end NumberedTrie

end ByteScan
