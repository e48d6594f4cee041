import ByteScan.Proofs.Automaton.Words
import Mathlib.Data.List.Perm.Basic

/-!
# Tries with numbered nodes

A trie may be grown word by word: adding a word follows the nodes that are there already and makes
those that are missing, and nodes are numbered in the order in which they are made. `Names` says which
word leads to which node. A trie that is grown from some words has one node for each of their
beginnings, and its nodes go on as the words do.
-/

namespace ByteScan

structure NumberedTrie where
  /-- For each node, the nodes that go on from it, in the order of their bytes. -/
  children : Array (List (UInt8 × Nat))

namespace NumberedTrie

def root : Nat := 0

def start : NumberedTrie := ⟨#[[]]⟩

def size (trie : NumberedTrie) : Nat := trie.children.size

def childrenOf (trie : NumberedTrie) (node : Nat) : List (UInt8 × Nat) :=
  trie.children.getD node []

def child? (trie : NumberedTrie) (node : Nat) (byte : UInt8) : Option Nat :=
  (trie.childrenOf node).lookup byte

def insertChild (byte : UInt8) (child : Nat) : List (UInt8 × Nat) → List (UInt8 × Nat)
  | [] => [(byte, child)]
  | entry :: entries =>
    if byte < entry.1 then (byte, child) :: entry :: entries
    else entry :: insertChild byte child entries

def addChild (trie : NumberedTrie) (node : Nat) (byte : UInt8) : NumberedTrie :=
  ⟨(trie.children.push []).modify node (insertChild byte trie.size)⟩

/-- Follows a word from a node, and makes the nodes that are missing. -/
def addWord (trie : NumberedTrie) (node : Nat) : Word → NumberedTrie
  | [] => trie
  | byte :: rest =>
    match trie.child? node byte with
    | some child => trie.addWord child rest
    | none => (trie.addChild node byte).addWord trie.size rest

def ofWords (words : List Word) : NumberedTrie :=
  words.foldl (fun trie word => trie.addWord root word) start

/-! ## Children of one node -/

theorem mem_insertChild (byte : UInt8) (child : Nat) (entries : List (UInt8 × Nat))
    (entry : UInt8 × Nat) :
    entry ∈ insertChild byte child entries ↔ entry = (byte, child) ∨ entry ∈ entries := by
  induction entries with
  | nil => simp only [insertChild, List.mem_cons]
  | cons first rest ih =>
      rw [insertChild]
      split
      · rw [List.mem_cons]
      · rw [List.mem_cons, ih, List.mem_cons, or_left_comm]

theorem ordered_insertChild {byte : UInt8} (child : Nat) {entries : List (UInt8 × Nat)}
    (ordered : entries.Pairwise fun first second => first.1 < second.1)
    (fresh : ∀ entry ∈ entries, entry.1 ≠ byte) :
    (insertChild byte child entries).Pairwise fun first second => first.1 < second.1 := by
  induction entries with
  | nil => exact List.pairwise_singleton ..
  | cons first rest ih =>
      obtain ⟨before, rest_ordered⟩ := List.pairwise_cons.mp ordered
      obtain ⟨different, rest_fresh⟩ := List.forall_mem_cons.mp fresh
      rw [insertChild]
      split
      · rename_i smaller
        refine List.pairwise_cons.mpr ⟨?_, ordered⟩
        intro entry member
        rcases List.mem_cons.mp member with rfl | later
        · exact smaller
        · exact UInt8.lt_trans smaller (before entry later)
      · rename_i notSmaller
        refine List.pairwise_cons.mpr ⟨?_, ih rest_ordered rest_fresh⟩
        intro entry member
        rcases (mem_insertChild byte child rest entry).mp member with rfl | later
        · exact UInt8.lt_of_le_of_ne (UInt8.not_lt.mp notSmaller) different
        · exact before entry later

theorem lookup_eq_some_iff_mem {entries : List (UInt8 × Nat)}
    (ordered : entries.Pairwise fun first second => first.1 < second.1) {byte : UInt8} {child : Nat} :
    entries.lookup byte = some child ↔ (byte, child) ∈ entries := by
  induction entries with
  | nil => exact ⟨nofun, nofun⟩
  | cons first rest ih =>
      obtain ⟨before, rest_ordered⟩ := List.pairwise_cons.mp ordered
      obtain ⟨key, value⟩ := first
      rw [List.lookup_cons, List.mem_cons]
      by_cases same : byte = key
      · subst same
        rw [beq_self_eq_true]
        constructor
        · intro found
          exact .inl (Prod.ext rfl (Option.some.inj found).symm)
        · rintro (isFirst | later)
          · exact congrArg some (Prod.mk.inj isFirst).2.symm
          · exact absurd (before _ later) (UInt8.lt_irrefl _)
      · rw [beq_false_of_ne same]
        refine (ih rest_ordered).trans (or_iff_right ?_).symm
        intro isFirst
        exact same (Prod.mk.inj isFirst).1

/-! ## Names of nodes -/

/-- The words that lead to the nodes of a trie, in the order of their numbers. -/
structure Names (trie : NumberedTrie) (names : List Word) : Prop where
  size : trie.size = names.length
  root : names[root]? = some []
  nodup : names.Nodup
  /-- Every word comes after what begins it. -/
  closed : ∀ word byte, word ++ [byte] ∈ names → word ∈ names
  ordered : ∀ node, (trie.childrenOf node).Pairwise fun first second => first.1 < second.1
  children : ∀ node word, names[node]? = some word → ∀ byte child,
    (byte, child) ∈ trie.childrenOf node ↔ names[child]? = some (word ++ [byte])

variable {trie : NumberedTrie} {names : List Word} {node : Nat} {word : Word} {byte : UInt8}

theorem names_start : start.Names [[]] where
  size := rfl
  root := rfl
  nodup := List.pairwise_singleton ..
  closed word byte member :=
    absurd (List.mem_singleton.mp member) (List.append_ne_nil_of_right_ne_nil _ (List.cons_ne_nil _ _))
  ordered node := by
    cases node <;> exact List.Pairwise.nil
  children := by
    intro node word isNamed byte child
    have blank : start.childrenOf node = [] := by cases node <;> rfl
    rw [blank]
    refine ⟨nofun, fun found => ?_⟩
    have listed := List.mem_singleton.mp (List.mem_of_getElem? found)
    exact absurd listed (List.append_ne_nil_of_right_ne_nil _ (List.cons_ne_nil _ _))

theorem getElem?_concat_iff {last name : Word} :
    (names ++ [last])[node]? = some name ↔
      names[node]? = some name ∨ node = names.length ∧ name = last := by
  rcases Nat.lt_trichotomy node names.length with inside | rfl | outside
  · rw [List.getElem?_append_left inside]
    exact (or_iff_left fun isLast => Nat.ne_of_lt inside isLast.1).symm
  · rw [List.getElem?_concat_length, List.getElem?_eq_none (Nat.le_refl _), Option.some.injEq]
    simp only [reduceCtorEq, true_and, false_or, eq_comm]
  · have outsideAll : (names ++ [last]).length ≤ node := by
      rw [List.length_append, List.length_singleton]
      exact outside
    rw [List.getElem?_eq_none outsideAll, List.getElem?_eq_none (Nat.le_of_lt outside)]
    simp only [reduceCtorEq, false_or, false_iff]
    exact fun isLast => Nat.ne_of_gt outside isLast.1

theorem size_addChild (trie : NumberedTrie) (node : Nat) (byte : UInt8) :
    (trie.addChild node byte).size = trie.size + 1 := by
  rw [size, addChild, Array.size_modify, Array.size_push]
  rfl

theorem childrenOf_size (trie : NumberedTrie) : trie.childrenOf trie.size = [] := by
  rw [childrenOf, Array.getD_eq_getD_getElem?, size, Array.getElem?_eq_none (Nat.le_refl _)]
  rfl

theorem childrenOf_addChild (inside : node < trie.size) (byte : UInt8) (other : Nat) :
    (trie.addChild node byte).childrenOf other =
      if node = other then insertChild byte trie.size (trie.childrenOf node)
      else trie.childrenOf other := by
  rw [size] at inside
  simp only [childrenOf, addChild, Array.getD_eq_getD_getElem?, Array.getElem?_modify,
    Array.getElem?_push]
  split
  · rename_i same
    subst same
    rw [if_neg (Nat.ne_of_lt inside), Array.getElem?_eq_getElem inside]
    rfl
  · split
    · rename_i isNew
      rw [isNew, Array.getElem?_eq_none (Nat.le_refl _)]
      rfl
    · rfl

namespace Names

theorem lt_size (trieNames : trie.Names names) (isNamed : names[node]? = some word) :
    node < trie.size := by
  rw [trieNames.size]
  exact (List.getElem?_eq_some_iff.mp isNamed).1

theorem node_unique (trieNames : trie.Names names) {other : Nat} (isNamed : names[node]? = some word)
    (isNamed' : names[other]? = some word) : node = other := by
  obtain ⟨inside, _⟩ := List.getElem?_eq_some_iff.mp isNamed
  exact (List.getElem?_inj inside trieNames.nodup).mp (isNamed.trans isNamed'.symm)

theorem child?_eq_some_iff (trieNames : trie.Names names) (isNamed : names[node]? = some word)
    {child : Nat} : trie.child? node byte = some child ↔ names[child]? = some (word ++ [byte]) := by
  rw [child?, lookup_eq_some_iff_mem (trieNames.ordered node)]
  exact trieNames.children node word isNamed byte child

theorem child?_eq_none_iff (trieNames : trie.Names names) (isNamed : names[node]? = some word) :
    trie.child? node byte = none ↔ word ++ [byte] ∉ names := by
  rw [Option.eq_none_iff_forall_ne_some, List.mem_iff_getElem?, not_exists]
  exact forall_congr' fun child => not_congr (trieNames.child?_eq_some_iff isNamed)

theorem children_addChild (trieNames : trie.Names names) (isNamed : names[node]? = some word)
    (fresh : word ++ [byte] ∉ names) {other : Nat} {name : Word}
    (isName : (names ++ [word ++ [byte]])[other]? = some name) (byte' : UInt8) (child : Nat) :
    (byte', child) ∈ (trie.addChild node byte).childrenOf other ↔
      (names ++ [word ++ [byte]])[child]? = some (name ++ [byte']) := by
  have inside := trieNames.lt_size isNamed
  rw [childrenOf_addChild inside, getElem?_concat_iff]
  rcases getElem?_concat_iff.mp isName with known | ⟨isNew, rfl⟩
  · have before := trieNames.children other name known byte' child
    split
    · rename_i same
      subst same
      obtain rfl : word = name := Option.some.inj (isNamed.symm.trans known)
      rw [mem_insertChild, before, or_comm, Prod.mk.injEq, trieNames.size, and_comm,
        List.append_cancel_left_eq, List.singleton_inj]
    · rename_i different
      refine before.trans (or_iff_left ?_).symm
      rintro ⟨_, same⟩
      obtain ⟨rfl, _⟩ := List.append_inj' same rfl
      exact different (trieNames.node_unique isNamed known)
  · -- The new node has no children, since a name that goes on from its name would have come earlier.
    rw [← trieNames.size] at isNew
    rw [isNew, if_neg (Nat.ne_of_lt inside), childrenOf_size]
    refine ⟨nofun, fun found => ?_⟩
    rcases found with listed | ⟨_, same⟩
    · exact absurd (trieNames.closed _ _ (List.mem_of_getElem? listed)) fresh
    · have lengths := congrArg List.length same
      rw [List.length_append, List.length_singleton] at lengths
      exact absurd lengths (Nat.succ_ne_self _)

theorem addChild (trieNames : trie.Names names) (isNamed : names[node]? = some word)
    (fresh : word ++ [byte] ∉ names) :
    (trie.addChild node byte).Names (names ++ [word ++ [byte]]) where
  size := by rw [size_addChild, trieNames.size, List.length_append, List.length_singleton]
  root := getElem?_concat_iff.mpr (.inl trieNames.root)
  nodup := by
    refine List.nodup_append.mpr ⟨trieNames.nodup, List.pairwise_singleton .., ?_⟩
    rintro name listed other isNew rfl
    rw [List.mem_singleton.mp isNew] at listed
    exact fresh listed
  closed name byte' member := by
    refine List.mem_append_left _ ?_
    rcases List.mem_append.mp member with listed | isNew
    · exact trieNames.closed name byte' listed
    · obtain ⟨rfl, _⟩ := List.append_inj' (List.mem_singleton.mp isNew) rfl
      exact List.mem_of_getElem? isNamed
  ordered other := by
    rw [childrenOf_addChild (trieNames.lt_size isNamed)]
    split
    · refine ordered_insertChild _ (trieNames.ordered node) ?_
      rintro ⟨key, child⟩ member rfl
      exact fresh (List.mem_of_getElem? ((trieNames.children node word isNamed key child).mp member))
    · exact trieNames.ordered other
  children _ _ isName := trieNames.children_addChild isNamed fresh isName

/-- A word that is added from a node gives the names that go on from that node. -/
theorem addWord (rest : Word) (trieNames : trie.Names names) (isNamed : names[node]? = some word) :
    ∃ after, (trie.addWord node rest).Names after ∧
      ∀ name, name ∈ after ↔ name ∈ names ∨ ∃ start, start <+: rest ∧ name = word ++ start := by
  induction rest generalizing trie names node word with
  | nil =>
      refine ⟨names, trieNames, fun name => ⟨.inl, ?_⟩⟩
      rintro (listed | ⟨start, begins, rfl⟩)
      · exact listed
      · rw [List.prefix_nil.mp begins, List.append_nil]
        exact List.mem_of_getElem? isNamed
  | cons byte rest ih =>
      -- What goes on from the child goes on from the node, and the node itself has its name already.
      have onward (before : List Word) (name : Word)
          (known : word ∈ before ∧ word ++ [byte] ∈ before) :
          (name ∈ before ∨ ∃ start, start <+: rest ∧ name = word ++ [byte] ++ start) ↔
            name ∈ before ∨ ∃ start, start <+: byte :: rest ∧ name = word ++ start := by
        constructor
        · refine Or.imp_right ?_
          rintro ⟨start, begins, rfl⟩
          exact ⟨byte :: start, List.cons_prefix_cons.mpr ⟨rfl, begins⟩, List.append_assoc ..⟩
        · rintro (listed | ⟨start, begins, rfl⟩)
          · exact .inl listed
          · cases start with
            | nil =>
                rw [List.append_nil]
                exact .inl known.1
            | cons first start =>
                obtain ⟨rfl, beginsRest⟩ := List.cons_prefix_cons.mp begins
                exact .inr ⟨start, beginsRest, (List.append_assoc word [first] start).symm⟩
      have self := List.mem_of_getElem? isNamed
      rw [NumberedTrie.addWord]
      cases found : trie.child? node byte with
      | some child =>
          have childNamed := (trieNames.child?_eq_some_iff isNamed).mp found
          obtain ⟨after, afterNames, members⟩ := ih trieNames childNamed
          refine ⟨after, afterNames, fun name => (members name).trans ?_⟩
          exact onward names name ⟨self, List.mem_of_getElem? childNamed⟩
      | none =>
          have fresh := (trieNames.child?_eq_none_iff isNamed).mp found
          have childNamed : (names ++ [word ++ [byte]])[trie.size]? = some (word ++ [byte]) :=
            getElem?_concat_iff.mpr (.inr ⟨trieNames.size, rfl⟩)
          obtain ⟨after, afterNames, members⟩ := ih (trieNames.addChild isNamed fresh) childNamed
          have isNew := List.mem_of_getElem? childNamed
          refine ⟨after, afterNames, fun name => (members name).trans ?_⟩
          rw [onward _ name ⟨List.mem_append_left _ self, isNew⟩, List.mem_append, List.mem_singleton,
            or_assoc]
          refine or_congr_right (or_iff_right_of_imp ?_)
          rintro rfl
          exact ⟨[byte], List.cons_prefix_cons.mpr ⟨rfl, List.nil_prefix⟩, rfl⟩

theorem addWords (words : List Word) (trieNames : trie.Names names) :
    ∃ after, (words.foldl (fun trie word => trie.addWord NumberedTrie.root word) trie).Names after ∧
      ∀ name, name ∈ after ↔ name ∈ names ∨ ∃ word ∈ words, name <+: word := by
  induction words generalizing trie names with
  | nil => exact ⟨names, trieNames, fun name => ⟨.inl, fun member => member.resolve_right nofun⟩⟩
  | cons word words ih =>
      obtain ⟨between, betweenNames, added⟩ := trieNames.addWord word trieNames.root
      obtain ⟨after, afterNames, members⟩ := ih betweenNames
      refine ⟨after, afterNames, fun name => ?_⟩
      simp only [members, added, List.nil_append, List.mem_cons, exists_eq_or_imp, or_assoc,
        exists_eq_right']

end Names

/-- A trie that is grown from some words has one node for each word that begins one of them. -/
theorem exists_names (words : List Word) :
    ∃ names, (ofWords words).Names names ∧ ∀ word, word ∈ names ↔ word ∈ Trie.words words := by
  obtain ⟨names, trieNames, members⟩ := names_start.addWords words
  refine ⟨names, trieNames, fun word => ?_⟩
  rw [members, Trie.mem_words, List.mem_singleton]

end NumberedTrie

end ByteScan
