import ByteScan.Proofs.Automaton.Numbered
import ByteScan.Proofs.Automaton.Survey
import Mathlib.Data.PFun

/-!
# The nodes of a trie level by level

From the first node on, nodes line up in a queue, and each that is taken from it lets its children line
up behind the others. So nodes come level by level: the words that lead to them come in the order of
`Trie.words`, and the queue runs empty once all have come.
-/

namespace ByteScan

/-! ## Loops -/

/-- Repeats a step until it gives a result; undefined if it never does. -/
def loop (step : σ → ρ ⊕ σ) : σ → Part ρ := PFun.fix fun state => Part.some (step state)

section

variable {step : σ → ρ ⊕ σ} {state next : σ} {result : ρ}

theorem loop_of_result (isResult : step state = .inl result) :
    loop step state = Part.some result := by
  refine Part.eq_some_iff.mpr (PFun.fix_stop ?_)
  rw [isResult]
  exact Part.mem_some _

theorem loop_of_next (isNext : step state = .inr next) : loop step state = loop step next := by
  refine PFun.fix_fwd_eq ?_
  rw [isNext]
  exact Part.mem_some _

end

/-! ## Queues -/

/-- Takes the first item from a queue and lets those that go on from it line up. The items that have
come out are the result once the queue is empty. -/
def dequeue (next : α → List α) (state : List α × List α) : List α ⊕ List α × List α :=
  match state with
  | (done, []) => .inl done
  | (done, first :: queue) => .inr (done ++ [first], queue ++ next first)

/-- A list that begins with an item, goes on with what its items let line up and repeats nothing comes
out of a queue in its order, and so do images of its items. The queue holds what has lined up and has
not come out yet. -/
theorem loop_dequeue {next : α → List α} {next' : β → List β} (image : α → β) {all : List α}
    {origin : α} (images : ∀ item ∈ all, next' (image item) = (next item).map image)
    (whole : all = origin :: all.flatMap next) (distinct : all.Nodup)
    (earlier : ∀ done item rest, all = done ++ item :: rest →
      item = origin ∨ ∃ before ∈ done, item ∈ next before)
    (rest done queue : List α) (split : all = done ++ rest)
    (queued : origin :: done.flatMap next = done ++ queue) :
    loop (dequeue next') (done.map image, queue.map image) = Part.some (all.map image) := by
  induction rest generalizing done queue with
  | nil =>
      rw [List.append_nil] at split
      rw [← split, ← whole] at queued
      rw [List.self_eq_append_right.mp queued, ← split]
      exact loop_of_result rfl
  | cons item rest ih =>
      have started : done ++ queue <+: done ++ item :: rest := by
        rw [← queued, ← split]
        conv => rhs; rw [whole, split, List.flatMap_append]
        exact List.cons_prefix_cons.mpr ⟨rfl, List.prefix_append _ _⟩
      cases queue with
      | nil =>
          -- What an item that is left came from has come out, so the item has lined up.
          rw [List.append_nil] at queued
          have listed : item ∈ done := by
            rw [← queued]
            rcases earlier done item rest split with rfl | ⟨before, inDone, isNext⟩
            · exact List.mem_cons_self ..
            · exact List.mem_cons_of_mem _ (List.mem_flatMap.mpr ⟨before, inDone, isNext⟩)
          rw [split] at distinct
          exact absurd rfl ((List.nodup_append.mp distinct).2.2 _ listed _ (List.mem_cons_self ..))
      | cons first queue =>
          obtain ⟨rfl, _⟩ :=
            List.cons_prefix_cons.mp ((List.prefix_append_right_inj done).mp started)
          have isItem : first ∈ all := by
            rw [split]
            exact List.mem_append_right _ (List.mem_cons_self ..)
          have goesOn := ih (done ++ [first]) (queue ++ next first)
            (by rw [split, List.append_assoc]; rfl)
            (by rw [List.flatMap_append, ← List.cons_append, queued, List.flatMap_singleton,
              List.append_assoc, List.append_assoc]; rfl)
          rw [List.map_append, List.map_append, ← images first isItem] at goesOn
          have step : dequeue next' (done.map image, (first :: queue).map image) =
            .inr (done.map image ++ [image first], queue.map image ++ next' (image first)) := rfl
          rw [loop_of_next step]
          exact goesOn

/-! ## The order of longer words -/

namespace Word

def Before (first second : Word) : Prop := precedes first second = true ∧ first ≠ second

theorem append_le_append_of_lt {first second : Word} (left right : Word)
    (lengths : first.length = second.length) (smaller : first < second) :
    first ++ left ≤ second ++ right := by
  induction first generalizing second with
  | nil =>
      rw [List.length_nil, eq_comm, List.length_eq_zero_iff] at lengths
      rw [lengths] at smaller
      exact absurd smaller (List.lt_irrefl _)
  | cons byte first ih =>
      cases second with
      | nil => exact absurd smaller (List.not_lt_nil _)
      | cons byte' second =>
          rw [List.cons_append, List.cons_append, List.cons_le_cons_iff]
          refine (List.cons_lt_cons_iff.mp smaller).imp_right fun ⟨same, smaller'⟩ => ⟨same, ?_⟩
          exact ih (Nat.succ.inj lengths) smaller'

/-- Words keep their order, whatever byte each of them goes on with. -/
theorem Before.concat {first second : Word} (before : Before first second) (left right : UInt8) :
    Before (first ++ [left]) (second ++ [right]) := by
  obtain ⟨isBefore, different⟩ := before
  refine ⟨?_, fun same => different (List.append_inj' same rfl).1⟩
  simp only [precedes, Bool.or_eq_true, Bool.and_eq_true, decide_eq_true_eq, beq_iff_eq,
    List.length_append, List.length_singleton] at isBefore ⊢
  rcases isBefore with shorter | ⟨lengths, le⟩
  · exact .inl (Nat.succ_lt_succ shorter)
  · have smaller : first < second := by
      refine List.not_le.mp fun ge => different (List.le_antisymm le ge)
    exact .inr ⟨congrArg Nat.succ lengths, append_le_append_of_lt _ _ lengths smaller⟩

theorem before_concat {left right : UInt8} (word : Word) (smaller : left < right) :
    Before (word ++ [left]) (word ++ [right]) := by
  constructor
  · simp only [precedes, Bool.or_eq_true, Bool.and_eq_true, decide_eq_true_eq, beq_iff_eq,
      List.length_append, List.length_singleton]
    refine .inr ⟨trivial, List.append_left_le (List.cons_le_cons_iff.mpr (.inl smaller))⟩
  · intro same
    rw [List.append_cancel_left_eq, List.singleton_inj] at same
    rw [same] at smaller
    exact UInt8.lt_irrefl _ smaller

theorem nil_before {word : Word} (filled : word ≠ []) : Before [] word := by
  refine ⟨?_, filled.symm⟩
  rw [precedes, Bool.or_eq_true, decide_eq_true_eq]
  exact .inl (List.length_pos_iff.mpr filled)

end Word

theorem Trie.allBytes_ordered : Trie.allBytes.Pairwise (· < ·) := by
  refine List.pairwise_map.mpr (List.Pairwise.imp_of_mem ?_ List.pairwise_lt_range)
  intro left right inLeft inRight smaller
  rw [List.mem_range] at inLeft inRight
  rwa [UInt8.lt_iff_toNat_lt, UInt8.toNat_ofNat_of_lt' inLeft, UInt8.toNat_ofNat_of_lt' inRight]

/-! ## Words level by level -/

namespace Automaton

variable {signs : List Sign}

def nextBytes (signs : List Sign) (word : Word) : List UInt8 :=
  Trie.allBytes.filter fun byte => isNode signs (word ++ [byte])

theorem mem_nextBytes {word : Word} {byte : UInt8} :
    byte ∈ nextBytes signs word ↔ word ++ [byte] ∈ wordsOf signs := by
  rw [nextBytes, List.mem_filter, isNode, decide_eq_true_eq]
  exact and_iff_right (Trie.mem_allBytes byte)

theorem nextBytes_ordered (signs : List Sign) (word : Word) :
    (nextBytes signs word).Pairwise (· < ·) :=
  Trie.allBytes_ordered.filter _

theorem nextWords_eq (signs : List Sign) (word : Word) :
    nextWords signs word Trie.allBytes = (nextBytes signs word).map fun byte => word ++ [byte] := by
  rw [nextWords, List.filter_map]
  rfl

/-- The words of nodes are the empty word and what goes on from them, in this order. -/
theorem wordsOf_eq (signs : List Sign) :
    wordsOf signs =
      [] :: (wordsOf signs).flatMap fun word => nextWords signs word Trie.allBytes := by
  have ordered : (wordsOf signs).Pairwise Word.Before := Trie.words_ordered _
  have following : ([] :: (wordsOf signs).flatMap fun word =>
      nextWords signs word Trie.allBytes).Pairwise Word.Before := by
    refine List.pairwise_cons.mpr ⟨?_, List.pairwise_flatMap.mpr ⟨?_, ?_⟩⟩
    · intro word member
      obtain ⟨start, _, isNext⟩ := List.mem_flatMap.mp member
      obtain ⟨_, byte, rfl⟩ := mem_nextWords.mp isNext
      exact Word.nil_before (List.append_ne_nil_of_right_ne_nil _ (List.cons_ne_nil _ _))
    · intro word _
      rw [nextWords_eq]
      exact List.pairwise_map.mpr ((nextBytes_ordered signs word).imp (Word.before_concat word))
    · refine ordered.imp ?_
      intro first second before left inLeft right inRight
      obtain ⟨_, byte, rfl⟩ := mem_nextWords.mp inLeft
      obtain ⟨_, byte', rfl⟩ := mem_nextWords.mp inRight
      exact before.concat byte byte'
  have same : (wordsOf signs).Perm
      ([] :: (wordsOf signs).flatMap fun word => nextWords signs word Trie.allBytes) := by
    refine (List.perm_ext_iff_of_nodup (Trie.words_nodup _) (following.imp And.right)).mpr ?_
    intro word
    rw [List.mem_cons, List.mem_flatMap]
    constructor
    · intro listed
      rcases List.eq_nil_or_concat' word with rfl | ⟨start, byte, rfl⟩
      · exact .inl rfl
      · refine .inr ⟨start, ?_, mem_nextWords.mpr ⟨listed, byte, rfl⟩⟩
        exact Trie.mem_words_of_prefix (List.prefix_append start [byte]) listed
    · rintro (rfl | ⟨start, _, isNext⟩)
      · exact Trie.nil_mem_words _
      · exact (mem_nextWords.mp isNext).1
  refine same.eq_of_pairwise ?_ ordered following
  intro first second _ _ before after
  exact Word.precedes_antisymm first second before.1 after.1

theorem mem_of_length_lt {done rest : List Word} {word other : Word}
    (split : wordsOf signs = done ++ word :: rest) (listed : other ∈ wordsOf signs)
    (shorter : other.length < word.length) : other ∈ done := by
  have ordered : (wordsOf signs).Pairwise Word.Before := Trie.words_ordered _
  rw [split] at ordered listed
  rcases List.mem_append.mp listed with before | after
  · exact before
  · rcases List.mem_cons.mp after with rfl | later
    · exact absurd shorter (Nat.lt_irrefl _)
    · have behind := (List.pairwise_cons.mp (List.pairwise_append.mp ordered).2.1).1 other later
      exact absurd (Word.length_le_of_precedes behind.1) (Nat.not_le.mpr shorter)

theorem eq_nil_or_exists_earlier (done : List Word) (word : Word) (rest : List Word)
    (split : wordsOf signs = done ++ word :: rest) :
    word = [] ∨ ∃ start ∈ done, word ∈ nextWords signs start Trie.allBytes := by
  rcases List.eq_nil_or_concat' word with rfl | ⟨start, byte, rfl⟩
  · exact .inl rfl
  · have listed : start ++ [byte] ∈ wordsOf signs := by
      rw [split]
      exact List.mem_append_right _ (List.mem_cons_self ..)
    refine .inr ⟨start, ?_, mem_nextWords.mpr ⟨listed, byte, rfl⟩⟩
    refine mem_of_length_lt split
      (Trie.mem_words_of_prefix (List.prefix_append start [byte]) listed) ?_
    rw [List.length_append]
    exact Nat.lt_succ_self _

theorem mem_of_length_le {done rest : List Word} {word other : Word}
    (split : wordsOf signs = done ++ word :: rest) (listed : other ∈ wordsOf signs)
    (bound : other.length ≤ word.length) :
    other ∈ [] :: done.flatMap fun word => nextWords signs word Trie.allBytes := by
  rcases List.eq_nil_or_concat' other with rfl | ⟨start, byte, rfl⟩
  · exact List.mem_cons_self ..
  · rw [List.length_append, List.length_singleton] at bound
    have startListed := Trie.mem_words_of_prefix (List.prefix_append start [byte]) listed
    refine List.mem_cons_of_mem _ (List.mem_flatMap.mpr ⟨start, ?_, ?_⟩)
    · exact mem_of_length_lt split startListed (Nat.lt_of_succ_le bound)
    · exact mem_nextWords.mpr ⟨listed, byte, rfl⟩

end Automaton

/-! ## Nodes level by level -/

namespace NumberedTrie

open Automaton

variable {signs : List Sign} {trie : NumberedTrie} {names : List Word} {word : Word}

def order (trie : NumberedTrie) : Part (List Nat) :=
  loop (dequeue fun node => (trie.childrenOf node).map Prod.snd) ([], [root])

/-- The nodes of a trie are named by the words for some signs. -/
structure Spells (trie : NumberedTrie) (signs : List Sign) (names : List Word) : Prop
    extends trie.Names names where
  members : ∀ word, word ∈ names ↔ word ∈ wordsOf signs

theorem exists_spells (signs : List Sign) :
    ∃ names, (ofWords (signs.map Sign.word)).Spells signs names := by
  obtain ⟨names, trieNames, members⟩ := exists_names (signs.map Sign.word)
  exact ⟨names, { trieNames with members }⟩

namespace Spells

variable (spells : trie.Spells signs names)
include spells

theorem named (listed : word ∈ wordsOf signs) : names[names.idxOf word]? = some word :=
  List.getElem?_idxOf ((spells.members word).mpr listed)

theorem idxOf_eq {node : Nat} (isNamed : names[node]? = some word) : names.idxOf word = node :=
  spells.node_unique (List.getElem?_idxOf (List.mem_of_getElem? isNamed)) isNamed

theorem idxOf_nil : names.idxOf [] = root := spells.idxOf_eq spells.root

theorem idxOf_ne_root (listed : word ∈ wordsOf signs) (filled : word ≠ []) :
    names.idxOf word ≠ root := by
  intro same
  have isNamed := spells.named listed
  rw [same, spells.root] at isNamed
  exact filled (Option.some.inj isNamed).symm

theorem idxOf_injective {first second : Word} (inFirst : first ∈ wordsOf signs)
    (same : names.idxOf first = names.idxOf second) : first = second :=
  (List.idxOf_inj ((spells.members first).mpr inFirst)).mp same

theorem childrenOf_eq (listed : word ∈ wordsOf signs) :
    trie.childrenOf (names.idxOf word) =
      (nextBytes signs word).map fun byte => (byte, names.idxOf (word ++ [byte])) := by
  have isNamed := spells.named listed
  have ordered := spells.ordered (names.idxOf word)
  have following : ((nextBytes signs word).map fun byte =>
      (byte, names.idxOf (word ++ [byte]))).Pairwise fun first second => first.1 < second.1 :=
    List.pairwise_map.mpr (nextBytes_ordered signs word)
  have apart {first second : UInt8 × Nat} (smaller : first.1 < second.1) : first ≠ second := by
    rintro rfl
    exact UInt8.lt_irrefl _ smaller
  have same : (trie.childrenOf (names.idxOf word)).Perm
      ((nextBytes signs word).map fun byte => (byte, names.idxOf (word ++ [byte]))) := by
    refine (List.perm_ext_iff_of_nodup (ordered.imp apart) (following.imp apart)).mpr ?_
    rintro ⟨byte, child⟩
    rw [spells.children _ word isNamed, List.mem_map]
    constructor
    · intro childNamed
      have childListed := (spells.members _).mp (List.mem_of_getElem? childNamed)
      exact ⟨byte, mem_nextBytes.mpr childListed, Prod.ext rfl (spells.idxOf_eq childNamed)⟩
    · rintro ⟨byte', goesOn, pair⟩
      obtain ⟨rfl, rfl⟩ := Prod.mk.inj pair
      exact spells.named (mem_nextBytes.mp goesOn)
  refine same.eq_of_pairwise ?_ ordered following
  intro first second _ _ smaller greater
  exact absurd (UInt8.lt_trans smaller greater) (UInt8.lt_irrefl _)

/-- The queue runs empty, and nodes come in the order of their words. -/
theorem order_eq : trie.order = Part.some ((wordsOf signs).map names.idxOf) := by
  have images (word : Word) (listed : word ∈ wordsOf signs) :
      (trie.childrenOf (names.idxOf word)).map Prod.snd =
        (nextWords signs word Trie.allBytes).map names.idxOf := by
    rw [spells.childrenOf_eq listed, nextWords_eq, List.map_map, List.map_map]
    rfl
  rw [order, ← spells.idxOf_nil]
  exact loop_dequeue names.idxOf images (wordsOf_eq signs) (Trie.words_nodup _)
    eq_nil_or_exists_earlier (wordsOf signs) [] [[]] rfl rfl

end Spells

end NumberedTrie

end ByteScan
