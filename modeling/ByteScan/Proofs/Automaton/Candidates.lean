import ByteScan.Proofs.Automaton.Positions
import Mathlib.Algebra.GroupWithZero.Nat

/-!
# The candidates of a state

The list of a word goes on with the list of its failure word, which was written before it. So the
list of a word names the signs of all its ends: `Sign.ending` says which these are, and
`Candidates.Written` is what holds of the lists while the nodes are gone through.
-/

namespace ByteScan

/-- The signs whose word ends a text: those of longer words first, and those of one word in the order
in which they were given. -/
def Sign.ending (signs : List Sign) (text : Word) : List Sign :=
  text.tails.flatMap fun ending => signs.filter fun sign => sign.word = ending

namespace Automaton

variable {signs : List Sign}

/-! ## The signs of all ends -/

def ownSigns (signs : List Sign) (word : Word) : List Sign :=
  signs.filter fun sign => sign.word = word

theorem mem_ownSigns {word : Word} {sign : Sign} :
    sign ∈ ownSigns signs word ↔ sign ∈ signs ∧ sign.word = word := by
  simp [ownSigns]

theorem word_mem_wordsOf {sign : Sign} (member : sign ∈ signs) : sign.word ∈ wordsOf signs :=
  Trie.mem_words_of_mem (List.mem_map_of_mem member)

theorem ownSigns_eq_nil {word : Word} (other : word ∉ wordsOf signs) : ownSigns signs word = [] := by
  refine List.filter_eq_nil_iff.mpr ?_
  intro sign member same
  rw [decide_eq_true_eq] at same
  exact other (same ▸ word_mem_wordsOf member)

theorem ending_nil (signs : List Sign) : Sign.ending signs [] = ownSigns signs [] := by
  simp [Sign.ending, ownSigns]

theorem ending_cons (signs : List Sign) (byte : UInt8) (rest : Word) :
    Sign.ending signs (byte :: rest) =
      ownSigns signs (byte :: rest) ++ Sign.ending signs rest := by
  simp [Sign.ending, ownSigns]

theorem mem_ending {text : Word} {sign : Sign} :
    sign ∈ Sign.ending signs text ↔ sign ∈ signs ∧ sign.word <:+ text := by
  simp [Sign.ending, and_comm]

theorem failureWord_cons (isNode : Word → Bool) (byte : UInt8) (rest : Word) :
    Trie.failureWord isNode (byte :: rest) = Trie.longestEnd isNode rest := rfl

theorem ending_longestEnd (signs : List Sign) (text : Word) :
    Sign.ending signs (Trie.longestEnd (isNode signs) text) = Sign.ending signs text := by
  induction text with
  | nil =>
      rw [Trie.longestEnd, isNode_nil]
      rfl
  | cons byte rest ih =>
      unfold Trie.longestEnd
      split
      · rfl
      · rename_i other
        have absent : byte :: rest ∉ wordsOf signs := fun member => other (decide_eq_true member)
        rw [failureWord_cons, ih, ending_cons, ownSigns_eq_nil absent, List.nil_append]

theorem ending_eq_append {word : Word} (filled : word ≠ []) :
    Sign.ending signs word = ownSigns signs word ++ Sign.ending signs (failureOf signs word) := by
  cases word with
  | nil => exact absurd rfl filled
  | cons byte rest => rw [ending_cons, failureOf, failureWord_cons, ending_longestEnd]

/-! ## Lists of candidates -/

/-- The list of candidates that begins at a head names some signs. Each candidate goes on with an
earlier one, so the list ends. -/
inductive Enumerates (candidates : Array Candidate) : Option Nat → List Sign → Prop where
  | nil : Enumerates candidates none []
  | cons {index : Nat} {next : Option Nat} {sign : Sign} {rest : List Sign}
      (found : candidates[index]? = some ⟨sign.backtrack, sign.string, next⟩)
      (backward : ∀ earlier, next = some earlier → earlier < index)
      (tail : Enumerates candidates next rest) :
      Enumerates candidates (some index) (sign :: rest)

/-- All candidates of an array stand in another one at the same places. -/
def Extends (before after : Array Candidate) : Prop :=
  ∀ (index : Nat) candidate, before[index]? = some candidate → after[index]? = some candidate

theorem Extends.refl (candidates : Array Candidate) : Extends candidates candidates :=
  fun _ _ found => found

theorem Extends.trans {first second third : Array Candidate} (before : Extends first second)
    (after : Extends second third) : Extends first third :=
  fun index candidate found => after index candidate (before index candidate found)

theorem Extends.push (candidates : Array Candidate) (candidate : Candidate) :
    Extends candidates (candidates.push candidate) := by
  intro index found at_index
  obtain ⟨inside, rfl⟩ := Array.getElem?_eq_some_iff.mp at_index
  rw [Array.getElem?_push_lt inside]

theorem Enumerates.extend {before after : Array Candidate} {head : Option Nat} {named : List Sign}
    (listed : Enumerates before head named) (grown : Extends before after) :
    Enumerates after head named := by
  induction listed with
  | nil => exact .nil
  | cons found backward tail ih => exact .cons (grown _ _ found) backward ih

theorem Enumerates.head_lt {candidates : Array Candidate} {head : Option Nat} {named : List Sign}
    (listed : Enumerates candidates head named) {index : Nat} (isHead : head = some index) :
    index < candidates.size := by
  cases listed with
  | nil => cases isHead
  | cons found backward tail =>
      cases isHead
      exact (Array.getElem?_eq_some_iff.mp found).1

theorem Enumerates.exists_candidate {candidates : Array Candidate} {head : Option Nat}
    {named : List Sign} (listed : Enumerates candidates head named) {sign : Sign}
    (member : sign ∈ named) :
    ∃ candidate ∈ candidates, candidate.backtrack = sign.backtrack ∧
      candidate.string = sign.string := by
  induction listed with
  | nil => cases member
  | cons found backward tail ih =>
      rcases List.mem_cons.mp member with rfl | later
      · exact ⟨_, Array.mem_of_getElem? found, rfl, rfl⟩
      · exact ih later

theorem Enumerates.map_list {automaton : Automaton} {head : Option Nat} {named : List Sign}
    (listed : Enumerates automaton.candidates head named) (fuel : Nat)
    (enough : ∀ index, head = some index → index < fuel) :
    (automaton.list fuel head).map (fun candidate => (candidate.backtrack, candidate.string)) =
      named.map fun sign => (sign.backtrack, sign.string) := by
  induction listed generalizing fuel with
  | nil => cases fuel <;> rfl
  | @cons index next sign rest found backward tail ih =>
      cases fuel with
      | zero => exact absurd (enough _ rfl) (Nat.not_lt_zero _)
      | succ fuel =>
          have bound := enough _ rfl
          have rest_eq := ih fuel fun earlier same =>
            Nat.lt_of_lt_of_le (backward earlier same) (Nat.le_of_lt_succ bound)
          simp only [list, found, List.map_cons, rest_eq]

/-! ## Writing the lists -/

/-- What holds of candidates whatever has been written: every one is of a sign and goes on with an
earlier one. -/
def Sound (signs : List Sign) (candidates : Array Candidate) : Prop :=
  ∀ (index : Nat) candidate, candidates[index]? = some candidate →
    (∃ sign ∈ signs, candidate.backtrack = sign.backtrack ∧ candidate.string = sign.string) ∧
      ∀ next, candidate.next = some next → next < index

theorem Sound.push {candidates : Array Candidate} (sound : Sound signs candidates) {sign : Sign}
    (member : sign ∈ signs) {head : Option Nat}
    (earlier : ∀ index, head = some index → index < candidates.size) :
    Sound signs (candidates.push ⟨sign.backtrack, sign.string, head⟩) := by
  intro index candidate found
  rw [Array.getElem?_push] at found
  split at found
  · rename_i isLast
    cases found
    refine ⟨⟨sign, member, rfl, rfl⟩, ?_⟩
    intro next isNext
    rw [isLast]
    exact earlier next isNext
  · exact sound index candidate found

/-- Putting signs in front of a list names them before what the list names. -/
theorem prependAll_spec (candidates : Array Candidate) (head : Option Nat) (named own : List Sign)
    (sound : Sound signs candidates) (listed : Enumerates candidates head named)
    (members : ∀ sign ∈ own, sign ∈ signs) :
    Extends candidates (prependAll candidates head own).1 ∧
      Sound signs (prependAll candidates head own).1 ∧
      Enumerates (prependAll candidates head own).1 (prependAll candidates head own).2
        (own ++ named) := by
  induction own with
  | nil => exact ⟨.refl _, sound, listed⟩
  | cons sign rest ih =>
      obtain ⟨grown, sound', listed'⟩ :=
        ih fun sign member => members sign (List.mem_cons_of_mem _ member)
      have extended := Extends.push (prependAll candidates head rest).1
        ⟨sign.backtrack, sign.string, (prependAll candidates head rest).2⟩
      refine ⟨grown.trans extended,
        sound'.push (members sign (List.mem_cons_self ..)) fun index => listed'.head_lt, ?_⟩
      exact .cons Array.getElem?_push_size (fun index => listed'.head_lt) (listed'.extend extended)

/-- What holds of the lists once some nodes have been gone through. -/
structure Written (signs : List Sign) (done : List (TrieNode × Nat)) (lists : Lists) : Prop where
  /-- There are as many heads as cells. -/
  size : lists.heads.size = tableSize (placedOf signs)
  /-- Every candidate is of a sign and goes on with an earlier one. -/
  sound : Sound signs lists.candidates
  /-- The list of each node names the signs of all ends of its word. -/
  enumerates : ∀ entry ∈ done,
    Enumerates lists.candidates (lists.heads.getD entry.2 none) (Sign.ending signs entry.1.word)
  /-- Every list begins with a candidate. -/
  inside : ∀ (index head : Nat), lists.heads[index]? = some (some head) →
    head < lists.candidates.size

theorem Written.start (signs : List Sign) :
    Written signs [] ⟨Array.replicate (tableSize (placedOf signs)) none, #[]⟩ where
  size := Array.size_replicate
  sound := by
    intro index candidate found
    simp at found
  enumerates := by
    intro entry member
    cases member
  inside := by
    intro index head found
    rw [Array.getElem?_replicate] at found
    split at found <;> cases found

theorem failure_done {done rest : List (TrieNode × Nat)} {entry : TrieNode × Nat}
    (all : placedOf signs = done ++ entry :: rest) (filled : entry.1.word ≠ []) :
    ∃ earlier ∈ done, earlier.1.word = failureOf signs entry.1.word := by
  have shorter : (failureOf signs entry.1.word).length < entry.1.word.length :=
    Trie.length_failureWord_lt _ filled
  have ordered := Trie.words_ordered (signs.map Sign.word)
  have listed := failureOf_mem signs entry.1.word
  rw [← wordsOf, ← placedOf_map_word, all, List.map_append, List.map_cons] at ordered
  rw [← placedOf_map_word, all, List.map_append, List.map_cons] at listed
  rcases List.mem_append.mp listed with before | after
  · exact List.mem_map.mp before
  · exfalso
    rcases List.mem_cons.mp after with same | later
    · exact Nat.lt_irrefl _ (same ▸ shorter)
    · have following := (List.pairwise_append.mp ordered).2.1
      have le := Word.length_le_of_precedes (List.rel_of_pairwise_cons following later).1
      exact Nat.not_lt.mpr le shorter

/-- Once a list is written that names the signs of all ends of a node, the node is done. -/
theorem Written.setHead {done : List (TrieNode × Nat)} {entry : TrieNode × Nat} {lists : Lists}
    (written : Written signs done lists) (inside : entry.2 < lists.heads.size)
    (apart : ∀ earlier ∈ done, earlier.2 ≠ entry.2) {candidates : Array Candidate}
    {head : Option Nat} (grown : Extends lists.candidates candidates)
    (sound : Sound signs candidates)
    (listed : Enumerates candidates head (Sign.ending signs entry.1.word)) :
    Written signs (done ++ [entry]) ⟨lists.heads.setIfInBounds entry.2 head, candidates⟩ where
  size := by rw [Array.size_setIfInBounds, written.size]
  sound := sound
  enumerates := by
    intro other member
    rw [Array.getD_eq_getD_getElem?]
    rcases List.mem_append.mp member with before | isLast
    · rw [Array.getElem?_setIfInBounds_ne (Ne.symm (apart other before)),
        ← Array.getD_eq_getD_getElem?]
      exact (written.enumerates other before).extend grown
    · obtain rfl := List.mem_singleton.mp isLast
      rw [Array.getElem?_setIfInBounds_self_of_lt inside]
      exact listed
  inside := by
    intro index first found
    rw [Array.getElem?_setIfInBounds] at found
    split at found
    · exact listed.head_lt (Option.some.inj found)
    · have bound := written.inside index first found
      exact (Array.getElem?_eq_some_iff.mp (grown _ _ (Array.getElem?_eq_getElem bound))).1

theorem Written.step {done rest : List (TrieNode × Nat)} {entry : TrieNode × Nat} {lists : Lists}
    (all : placedOf signs = done ++ entry :: rest) (written : Written signs done lists) :
    Written signs (done ++ [entry])
      (writeLists (positionsOf (placedOf signs)) signs lists entry.1 entry.2) := by
  have placed : entry ∈ placedOf signs := by rw [all]; simp
  have entry_lt : entry.2 < lists.heads.size := by
    rw [written.size]
    exact cell_lt_of_mem_cellsOf placed (List.mem_cons_self ..)
  have apart : ∀ earlier ∈ done, earlier.2 ≠ entry.2 := by
    intro earlier member same
    have distinct : (placedOf signs).Nodup := by
      refine List.Nodup.of_map (fun entry => entry.1.word) ?_
      rw [placedOf_map_word]
      exact Trie.words_nodup _
    have earlier_placed : earlier ∈ placedOf signs := by rw [all]; simp [member]
    have equal := Placing.eq_of_mem_cellsOf children_distinct earlier_placed placed
      (List.mem_cons_self ..) (by rw [same]; exact List.mem_cons_self ..)
    rw [all] at distinct
    exact (List.nodup_append.mp distinct).2.2 earlier member entry (List.mem_cons_self ..) equal
  -- The list goes on with that of the failure word, which is written.
  obtain ⟨named, inherited, goesOn⟩ : ∃ named,
      Enumerates lists.candidates
        (if entry.1.word.isEmpty then none
          else lists.heads.getD (failurePosition (positionsOf (placedOf signs)) entry.1.word) none)
        named ∧
      ownSigns signs entry.1.word ++ named = Sign.ending signs entry.1.word := by
    by_cases isRoot : entry.1.word = []
    · refine ⟨[], ?_, ?_⟩
      · rw [isRoot]
        exact .nil
      · rw [isRoot, List.append_nil, ending_nil]
    · refine ⟨Sign.ending signs (failureOf signs entry.1.word), ?_,
        (ending_eq_append isRoot).symm⟩
      obtain ⟨earlier, member, same⟩ := failure_done all isRoot
      have earlier_placed : earlier ∈ placedOf signs := by rw [all]; simp [member]
      have listed := written.enumerates earlier member
      rw [position_eq earlier_placed, same] at listed
      rwa [if_neg (by simpa using isRoot), failurePosition_eq]
  obtain ⟨grown, sound, listed⟩ := prependAll_spec lists.candidates _ named
    (ownSigns signs entry.1.word) written.sound inherited
    fun sign member => (mem_ownSigns.mp member).1
  rw [goesOn] at listed
  exact written.setHead entry_lt apart grown sound listed

theorem Written.run {done rest : List (TrieNode × Nat)} {lists : Lists}
    (all : placedOf signs = done ++ rest) (written : Written signs done lists) :
    Written signs (placedOf signs)
      (rest.foldl
        (fun lists entry =>
          writeLists (positionsOf (placedOf signs)) signs lists entry.1 entry.2) lists) := by
  induction rest generalizing done lists with
  | nil =>
      rw [all, List.append_nil]
      exact written
  | cons entry rest ih =>
      have all' : placedOf signs = (done ++ [entry]) ++ rest := by
        rw [all, List.append_assoc, List.singleton_append]
      exact ih all' (written.step all)

/-- The lists of the tables for some signs. -/
theorem written_tablesOf (signs : List Sign) (strings : Nat) :
    Written signs (placedOf signs)
      ⟨(tablesOf signs strings).heads, (tablesOf signs strings).candidates⟩ :=
  Written.run (List.nil_append _).symm (Written.start signs)

/-! ## How many candidates there are -/

theorem size_prependAll (candidates : Array Candidate) (head : Option Nat) (own : List Sign) :
    (prependAll candidates head own).1.size = candidates.size + own.length := by
  induction own with
  | nil => rfl
  | cons sign rest ih =>
      rw [prependAll, Array.size_push, ih, List.length_cons, Nat.add_assoc]

theorem size_foldl_writeLists (positions : Std.HashMap Word Nat) (signs : List Sign)
    (entries : List (TrieNode × Nat)) (lists : Lists) :
    (entries.foldl (fun lists entry => writeLists positions signs lists entry.1 entry.2)
        lists).candidates.size =
      lists.candidates.size +
        (entries.map fun entry => (ownSigns signs entry.1.word).length).sum := by
  induction entries generalizing lists with
  | nil => rfl
  | cons entry rest ih =>
      rw [List.foldl_cons, ih, List.map_cons, List.sum_cons, ← Nat.add_assoc]
      simp only [writeLists, size_prependAll, ownSigns]

theorem sum_length_ownSigns_le {words : List Word} (distinct : words.Nodup) (signs : List Sign) :
    (words.map fun word => (ownSigns signs word).length).sum ≤ signs.length := by
  induction words generalizing signs with
  | nil => exact Nat.zero_le _
  | cons word rest ih =>
      obtain ⟨absent, distinct⟩ := List.nodup_cons.mp distinct
      let others := signs.filter fun sign => !decide (sign.word = word)
      have same : ∀ later ∈ rest, ownSigns others later = ownSigns signs later := by
        intro later listed
        rw [ownSigns, List.filter_filter]
        refine List.filter_congr fun sign _ => ?_
        by_cases isLater : sign.word = later
        · have notWord : later ≠ word := fun isWord => absent (isWord ▸ listed)
          simp [isLater, notWord]
        · simp [isLater]
      have split := List.length_eq_length_filter_add (l := signs) fun sign => decide (sign.word = word)
      have few := ih distinct others
      rw [List.map_congr_left fun later listed => congrArg List.length (same later listed)] at few
      rw [List.map_cons, List.sum_cons, split]
      exact Nat.add_le_add_left few _

/-- Each sign is one candidate. -/
theorem size_candidates_le (signs : List Sign) (strings : Nat) :
    (tablesOf signs strings).candidates.size ≤ signs.length := by
  have size := size_foldl_writeLists (positionsOf (placedOf signs)) signs (placedOf signs)
    ⟨Array.replicate (tableSize (placedOf signs)) none, #[]⟩
  have few := sum_length_ownSigns_le (Trie.words_nodup (signs.map Sign.word)) signs
  change ((wordsOf signs).map _).sum ≤ _ at few
  rw [← placedOf_map_word, List.map_map] at few
  rw [Array.size_empty, Nat.zero_add] at size
  exact size.le.trans few

/-- The numbers of candidates are words of thirty-two bits unless there are more signs than such
words. -/
theorem candidate_lt {signs : List Sign} (few : signs.length ≤ UInt32.size) (strings : Nat) :
    (∀ (index head : Nat), (tablesOf signs strings).heads[index]? = some (some head) →
      head < UInt32.size) ∧
    ∀ (index : Nat) candidate next, (tablesOf signs strings).candidates[index]? = some candidate →
      candidate.next = some next → next < UInt32.size := by
  have written := written_tablesOf signs strings
  have size := (size_candidates_le signs strings).trans few
  constructor
  · intro index head isHead
    exact Nat.lt_of_lt_of_le (written.inside index head isHead) size
  · intro index candidate next found isNext
    have inside := (Array.getElem?_eq_some_iff.mp found).1
    exact (((written.sound index candidate found).2 next isNext).trans inside).trans_le size

end Automaton

end ByteScan
