import ByteScan.Proofs.Automaton.Checked
import ByteScan.RuleSet.Compilation

/-!
# What an automaton finds

After some bytes the automaton is at the position of their longest end that has a node, so its
candidates are the signs of all their ends. `ofSigns_exact` says so of every list of signs, and also
when there is an automaton for them.
-/

namespace ByteScan.Automaton

variable {signs : List Sign} {strings : Nat}

/-! ## The longest end after one more byte -/

theorem isNode_of_prefix {start word : Word} (begins : start <+: word)
    (node : isNode signs word = true) : isNode signs start = true :=
  decide_eq_true (Trie.mem_words_of_prefix begins (of_decide_eq_true node))

/-- The longest end of some bytes and one more is an end of their longest end and that byte. -/
theorem longestEnd_append (word : Word) (byte : UInt8) :
    Trie.longestEnd (isNode signs) (word ++ [byte]) =
      Trie.longestEnd (isNode signs) (Trie.longestEnd (isNode signs) word ++ [byte]) := by
  have root := isNode_nil signs
  have inWord : Trie.longestEnd (isNode signs) word ++ [byte] <:+ word ++ [byte] :=
    (List.suffix_append_inj_of_length_eq rfl).mpr ⟨Trie.longestEnd_suffix _ word, rfl⟩
  refine (Trie.eq_longestEnd ((Trie.longestEnd_suffix _ _).trans inWord)
    (Trie.longestEnd_isNode root _) ?_).symm
  have node := Trie.longestEnd_isNode root (word ++ [byte])
  have ends := Trie.longestEnd_suffix (isNode signs) (word ++ [byte])
  refine Trie.suffix_longestEnd ?_ node
  rcases List.suffix_concat_iff.mp ends with empty | ⟨start, same, start_ends⟩
  · rw [empty]
    exact List.nil_suffix
  · rw [same] at node ⊢
    have start_node := isNode_of_prefix (List.prefix_append start [byte]) node
    exact (List.suffix_append_inj_of_length_eq rfl).mpr
      ⟨Trie.suffix_longestEnd start_ends start_node, rfl⟩

/-- Where a word does not go on with a byte, its failure word decides. -/
theorem longestEnd_of_failure {word : Word} (filled : word ≠ []) {byte : UInt8}
    (other : isNode signs (word ++ [byte]) ≠ true) :
    Trie.longestEnd (isNode signs) (word ++ [byte]) =
      Trie.longestEnd (isNode signs) (failureOf signs word ++ [byte]) := by
  cases word with
  | nil => exact absurd rfl filled
  | cons first rest =>
      rw [Trie.longestEnd, if_neg other, List.cons_append, failureWord_cons, longestEnd_append]
      rfl

theorem longestEnd_singleton {byte : UInt8} (other : isNode signs [byte] ≠ true) :
    Trie.longestEnd (isNode signs) [byte] = [] := by
  rw [Trie.longestEnd, if_neg other, failureWord_cons, Trie.longestEnd, isNode_nil]
  rfl

theorem longestEnd_mem (word : Word) : Trie.longestEnd (isNode signs) word ∈ wordsOf signs :=
  of_decide_eq_true (Trie.longestEnd_isNode (isNode_nil signs) word)

/-! ## Steps -/

section

variable {automaton : Automaton} (built : ofSigns signs strings = .ok automaton)
include built

/-- Following the failure links of a word ends at its longest end that goes on with a byte. -/
theorem follow_positionAt {word : Word} (listed : word ∈ wordsOf signs) (byte : UInt8) (fuel : Nat)
    (enough : word.length < fuel) :
    automaton.follow (labelOf byte) fuel (positionAt signs word) =
      positionAt signs (Trie.longestEnd (isNode signs) (word ++ [byte])) := by
  obtain ⟨fits, tables⟩ := of_ofSigns built
  induction fuel generalizing word with
  | zero => exact absurd enough (Nat.not_lt_zero _)
  | succ fuel ih =>
      rw [follow, tables, transition?_positionAt fits listed]
      by_cases goesOn : isNode signs (word ++ [byte]) = true
      · rw [if_pos goesOn, Trie.longestEnd, if_pos goesOn]
      · rw [if_neg goesOn]
        by_cases isRoot : word = []
        · subst isRoot
          rw [List.nil_append] at goesOn ⊢
          simp only [positionAt_nil, if_true, longestEnd_singleton goesOn]
        · have apart : positionAt signs word ≠ root := by
            rw [← positionAt_nil signs]
            exact fun same => isRoot (positionAt_injective listed (Trie.nil_mem_words _) same)
          have shorter : (failureOf signs word).length < word.length :=
            Trie.length_failureWord_lt _ isRoot
          simp only [if_neg apart, failureOf_positionAt fits listed]
          rw [ih (failureOf_mem signs word) (by omega), longestEnd_of_failure isRoot goesOn]

theorem step_positionAt {word : Word} (listed : word ∈ wordsOf signs) (byte : UInt8) :
    automaton.step (positionAt signs word) byte =
      positionAt signs (Trie.longestEnd (isNode signs) (word ++ [byte])) := by
  refine follow_positionAt built listed byte _ ?_
  have shorter := Trie.length_lt_length_words listed
  have count := length_wordsOf_le signs
  rw [(of_ofSigns built).2, size_tablesOf_cells]
  exact Nat.lt_of_lt_of_le shorter count

/-- After some bytes the automaton is at the position of their longest end that has a node. -/
theorem foldl_step_root (text : Word) :
    text.foldl automaton.step root =
      positionAt signs (Trie.longestEnd (isNode signs) text) := by
  induction text using List.reverseRecOn with
  | nil =>
      rw [Trie.longestEnd, isNode_nil]
      exact (positionAt_nil signs).symm
  | append_singleton text byte ih =>
      rw [List.foldl_append, ih, List.foldl_cons, List.foldl_nil,
        step_positionAt built (longestEnd_mem text), ← longestEnd_append]

/-! ## Candidates -/

theorem candidatesAt_positionAt {word : Word} (listed : word ∈ wordsOf signs) :
    (automaton.candidatesAt (positionAt signs word)).map
        (fun candidate => (candidate.backtrack, candidate.string)) =
      (Sign.ending signs word).map fun sign => (sign.backtrack, sign.string) := by
  obtain ⟨children, placed, _⟩ := exists_placed listed
  have enumerates := (written_tablesOf signs strings).enumerates _ placed
  rw [← (of_ofSigns built).2] at enumerates
  exact enumerates.map_list _ fun index isHead => enumerates.head_lt isHead

/-- After some bytes the candidates are the signs of all their ends. -/
theorem candidatesAt_foldl_step (text : Word) :
    (automaton.candidatesAt (text.foldl automaton.step root)).map
        (fun candidate => (candidate.backtrack, candidate.string)) =
      (Sign.ending signs text).map fun sign => (sign.backtrack, sign.string) := by
  rw [foldl_step_root built, candidatesAt_positionAt built (longestEnd_mem text),
    ending_longestEnd]

theorem exists_candidate_iff (text : Word) (backtrack : UInt16) (string : Nat) :
    (∃ candidate ∈ automaton.candidatesAt (text.foldl automaton.step root),
        candidate.backtrack = backtrack ∧ candidate.string = string) ↔
      ∃ sign ∈ signs, sign.word <:+ text ∧ sign.backtrack = backtrack ∧ sign.string = string := by
  have same := candidatesAt_foldl_step built text
  have listed := congrArg ((backtrack, string) ∈ ·) same
  simpa only [List.mem_map, Prod.mk.injEq, mem_ending, eq_iff_iff, and_assoc] using listed

end

/-! ## The order of candidates -/

theorem tails_longer_first (text : Word) :
    text.tails.Pairwise fun longer shorter => shorter.length < longer.length := by
  induction text with
  | nil => exact List.pairwise_singleton ..
  | cons byte rest ih =>
      rw [List.tails_cons]
      refine List.pairwise_cons.mpr ⟨?_, ih⟩
      intro ending member
      have bound := ((List.mem_tails _ _).mp member).length_le
      rw [List.length_cons]
      omega

theorem ending_longer_first (signs : List Sign) (text : Word) :
    (Sign.ending signs text).Pairwise fun first second =>
      second.word.length ≤ first.word.length := by
  refine List.pairwise_flatMap.mpr ⟨?_, ?_⟩
  · intro ending _
    refine List.pairwise_of_forall_mem_list ?_
    intro first inFirst second inSecond
    rw [(mem_ownSigns.mp inFirst).2, (mem_ownSigns.mp inSecond).2]
  · refine (tails_longer_first text).imp ?_
    intro longer shorter bound first inFirst second inSecond
    rw [(mem_ownSigns.mp inFirst).2, (mem_ownSigns.mp inSecond).2]
    exact Nat.le_of_lt bound

theorem filter_ownSigns (ending word : Word) :
    (ownSigns signs ending).filter (fun sign => sign.word = word) =
      if ending = word then ownSigns signs word else [] := by
  split
  · rename_i same
    subst same
    exact List.filter_eq_self.mpr fun sign member => decide_eq_true (mem_ownSigns.mp member).2
  · rename_i different
    refine List.filter_eq_nil_iff.mpr ?_
    intro sign member same
    exact different ((mem_ownSigns.mp member).2.symm.trans (of_decide_eq_true same))

/-- The signs of each end are those given for it, in the order given. -/
theorem filter_ending (text word : Word) :
    (Sign.ending signs text).filter (fun sign => sign.word = word) =
      if word <:+ text then ownSigns signs word else [] := by
  induction text with
  | nil =>
      rw [ending_nil, filter_ownSigns]
      simp only [List.suffix_nil, eq_comm]
  | cons byte rest ih =>
      rw [ending_cons, List.filter_append, filter_ownSigns, ih]
      simp only [List.suffix_cons_iff]
      by_cases whole : byte :: rest = word
      · subst whole
        have other : ¬byte :: rest <:+ rest := fun ends => by
          have bound := ends.length_le
          rw [List.length_cons] at bound
          omega
        simp only [if_true, if_neg other, List.append_nil, true_or]
      · simp only [if_neg whole, List.nil_append, Ne.symm whole, false_or]

/-! ## The automaton for some signs -/

/-- If the table is not too large, there is an automaton for some signs unless one of them belongs to
no string. After any bytes its candidates are the signs whose words end them, those of longer words
first and those of one word in the order given. -/
theorem ofSigns_exact (signs : List Sign) (strings : Nat)
    (fits : (tablesOf signs strings).cells.size ≤ tableLimit) :
    ((∀ sign ∈ signs, sign.string < strings) →
      ∃ automaton, ofSigns signs strings = .ok automaton ∧
        ∀ text : Word,
          (automaton.candidatesAt (text.foldl automaton.step root)).map
              (fun candidate => (candidate.backtrack, candidate.string)) =
            (Sign.ending signs text).map (fun sign => (sign.backtrack, sign.string)) ∧
          (∀ word : Word, (Sign.ending signs text).filter (fun sign => sign.word = word) =
            if word <:+ text then signs.filter (fun sign => sign.word = word) else []) ∧
          (Sign.ending signs text).Pairwise fun first second =>
            second.word.length ≤ first.word.length) ∧
    ((∃ sign ∈ signs, strings ≤ sign.string) →
      ∃ culprit, ofSigns signs strings = .error (.tables (.unknownString culprit)) ∧
        Collection.buildError (.tables (.unknownString culprit)) =
          .corrupt (.tables (.unknownString culprit))) := by
  rw [size_tablesOf_cells] at fits
  constructor
  · intro known
    obtain ⟨automaton, built⟩ := ofSigns_ok fits known
    refine ⟨automaton, built, ?_⟩
    intro text
    exact ⟨candidatesAt_foldl_step built text, filter_ending text, ending_longer_first signs text⟩
  · rintro ⟨sign, member, unknown⟩
    obtain ⟨culprit, failed⟩ := ofSigns_error fits member unknown
    exact ⟨culprit, failed, rfl⟩

/-- Three words that overlap: after the bytes of the second, it and the first are found. Without a
third string there is no automaton. -/
theorem ofSigns_exact_overlapping :
    let signs : List Sign :=
      [⟨[0x68, 0x65], 2, 0⟩, ⟨[0x73, 0x68, 0x65], 3, 1⟩, ⟨[0x68, 0x65, 0x72, 0x73], 4, 2⟩]
    (∀ strings, (tablesOf signs strings).cells.size ≤ tableLimit) ∧
      (∃ automaton, ofSigns signs 3 = .ok automaton ∧
        (automaton.candidatesAt ([0x75, 0x73, 0x68, 0x65].foldl automaton.step root)).map
          (fun candidate => (candidate.backtrack, candidate.string)) = [(3, 1), (2, 0)]) ∧
      ∃ culprit, ofSigns signs 2 = .error (.tables (.unknownString culprit)) := by
  intro signs
  have fits (strings : Nat) : (tablesOf signs strings).cells.size ≤ tableLimit :=
    (size_cells_le signs strings).trans (by decide)
  obtain ⟨automaton, built, finds⟩ := (ofSigns_exact signs 3 (fits 3)).1 (by decide)
  obtain ⟨culprit, failed, _⟩ := (ofSigns_exact signs 2 (fits 2)).2 (by decide)
  refine ⟨fits, ⟨automaton, built, ?_⟩, culprit, failed⟩
  rw [(finds [0x75, 0x73, 0x68, 0x65]).1]
  decide

end ByteScan.Automaton
