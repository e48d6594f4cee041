import ByteScan.Proofs.Automaton.Search
import ByteScan.Proofs.Items
import ByteScan.Proofs.RuleSet.Compiling
import ByteScan.Proofs.Scan.Walking

/-!
# Scanning finds exactly the occurrences

A string of a compiled rule set is visited at an offset where one of its atoms stands, and nowhere
else. With atoms in every occurrence, `scanBlock_exact` gets from the visits of a whole block that
what is recorded of a text or hex pattern is what looking at every single offset would find.
-/

namespace ByteScan.Scan

variable {collection : Collection} {rules : RuleSet}

/-! ## Visits of a compiled rule set -/

theorem mem_visitsBefore_iff (compiled : collection.compile = .ok rules) {block : Block}
    {string offset : Nat} :
    ⟨string, offset⟩ ∈ visitsBefore rules block (block.data.size + 1) ↔
      ∃ definition, rules.strings[string]? = some definition ∧
        definition.Hinted block.data offset := by
  obtain ⟨_, compilation, _, gives⟩ := Collection.compile_eq_ok compiled
  rw [mem_visitsBefore]
  constructor
  · rintro ⟨position, before, listed⟩
    obtain ⟨candidate, isCandidate, enough, same⟩ := mem_visitsAt.mp listed
    obtain ⟨sign, member, ends, sameBacktrack, sameString⟩ :=
      (Automaton.exists_candidate_iff gives.built _ _ _).mp ⟨candidate, isCandidate, rfl, rfl⟩
    obtain ⟨definition, found, atom, chosen, word, backtrack⟩ := mem_signsOf.mp member
    obtain ⟨rfl, rfl⟩ : string = candidate.string ∧
        offset = position - candidate.backtrack.toNat := by
      cases same
      exact ⟨rfl, rfl⟩
    rw [sameString, Array.getElem?_toList] at found
    refine ⟨definition, found, atom, chosen, ?_, ?_⟩
    · rw [← backtrack, sameBacktrack]
      omega
    · rw [← backtrack, sameBacktrack, Nat.sub_add_cancel enough, ← word]
      exact ends
  · rintro ⟨definition, found, atom, chosen, within, ends⟩
    obtain ⟨candidate, isCandidate, sameBacktrack, sameString⟩ :=
      (Automaton.exists_candidate_iff gives.built _ _ _).mpr
        ⟨⟨atom.bytes, atom.backtrack, string⟩,
          mem_signsOf.mpr ⟨definition, Array.getElem?_toList.trans found, atom, chosen, rfl, rfl⟩,
          ends, rfl, rfl⟩
    refine ⟨offset + atom.backtrack.toNat, by omega, mem_visitsAt.mpr ⟨candidate, isCandidate, ?_⟩⟩
    rw [sameBacktrack, sameString, Nat.add_sub_cancel]
    exact ⟨Nat.le_add_left _ _, rfl⟩

/-! ## A fresh context -/

section

variable (rules) (slot : Nat) (flags : ScanFlags) (fileSize : UInt64) (timeout : Nanoseconds)
  (clock : Clock)

theorem matchesOf_new (string : Nat) :
    (Context.new rules slot flags fileSize timeout clock).matchesOf string = [] := by
  rw [Context.matchesOf, Context.new, getD_replicate]
  rfl

theorem unseen_new (base : UInt64) :
    Unseen base (Context.new rules slot flags fileSize timeout clock) where
  last := by
    intro string found isLast
    rw [Context.lastMatch?_eq, matchesOf_new] at isLast
    cases isLast
  recorded := by
    intro string offset
    exact Std.HashSet.not_mem_empty

theorem size_lists_new :
    (Context.new rules slot flags fileSize timeout clock).lists.size = rules.strings.size :=
  Array.size_replicate

theorem scanBlock_new_ends (compiled : collection.compile = .ok rules)
    (thorough : flags.fastMode = false) (block : Block) :
    Ends (timeout = 0 ∧
        HasRoomFor rules block (Context.new rules slot flags fileSize timeout clock))
      (fun _ after => ∀ string, after.matchesOf string =
        foundBy rules block (visitsBefore rules block (block.data.size + 1)) string)
      (scanBlock rules block (Context.new rules slot flags fileSize timeout clock)) := by
  obtain ⟨_, compilation, _, gives⟩ := Collection.compile_eq_ok compiled
  refine ((scanBlock_ends (unseen_new rules slot flags fileSize timeout clock block.base) thorough
    gives.candidatesKnown (size_lists_new rules slot flags fileSize timeout clock)).spare
      fun both => ⟨both.1, both.2.found _⟩).imp ?_
  intro _ after recorded string
  rw [recorded.found, matchesOf_new, List.nil_append]

end

/-! ## Exactness -/

/-- The visits of a block find the occurrences of a string at the offsets that `told` holds of, if it
holds of those at which an atom of the string tells. -/
theorem foundBy_perm (compiled : collection.compile = .ok rules) {block : Block} {string : Nat}
    {definition : StringDef} (known : rules.strings[string]? = some definition) (told : Nat → Bool)
    (tells : ∀ offset length, definition.matchLength? block.data offset = some length →
      (told offset = true ↔ definition.Hinted block.data offset)) :
    List.Perm (foundBy rules block (visitsBefore rules block (block.data.size + 1)) string)
      (((List.range block.data.size).filter told).filterMap
        fun offset => definition.matchAt? block offset) := by
  have distinct : (foundBy rules block (visitsBefore rules block (block.data.size + 1))
      string).Nodup :=
    (foundBy_distinct known).imp fun different same => different (congrArg Match.offset same)
  have once : (((List.range block.data.size).filter told).filterMap
      fun offset => definition.matchAt? block offset).Nodup := by
    refine List.Nodup.filterMap ?_ (List.nodup_range.filter told)
    intro first second found isFirst isSecond
    exact (StringDef.offset_of_matchAt? isFirst).2.symm.trans
      (StringDef.offset_of_matchAt? isSecond).2
  refine (List.perm_ext_iff_of_nodup distinct once).mpr ?_
  intro found
  rw [mem_foundBy known, List.mem_filterMap]
  constructor
  · rintro ⟨offset, visited, same⟩
    obtain ⟨length, occurs, _⟩ := Option.map_eq_some_iff.mp same
    obtain ⟨other, isOther, hinted⟩ := (mem_visitsBefore_iff compiled).mp visited
    cases known.symm.trans isOther
    have within := List.mem_range.mpr (StringDef.lt_size_of_matchLength? occurs)
    exact ⟨offset, List.mem_filter.mpr ⟨within, (tells offset length occurs).mpr hinted⟩, same⟩
  · rintro ⟨offset, listed, same⟩
    obtain ⟨length, occurs, _⟩ := Option.map_eq_some_iff.mp same
    have hinted := (tells offset length occurs).mp (List.mem_filter.mp listed).2
    exact ⟨offset, (mem_visitsBefore_iff compiled).mpr ⟨definition, known, hinted⟩, same⟩

theorem foundBy_perm_occurrences (compiled : collection.compile = .ok rules) {block : Block}
    {string : Nat} {definition : StringDef} (known : rules.strings[string]? = some definition)
    (hinted : ∀ offset length, definition.matchLength? block.data offset = some length →
      definition.Hinted block.data offset) :
    List.Perm (foundBy rules block (visitsBefore rules block (block.data.size + 1)) string)
      (definition.occurrences block) := by
  have all := foundBy_perm compiled known (fun _ => true)
    fun offset length occurs => ⟨fun _ => hinted offset length occurs, fun _ => rfl⟩
  rw [List.filter_true] at all
  exact all

/-- Without a time limit scanning a block in a fresh context succeeds if the occurrences of each
string and of all of them are not too many. -/
theorem scanBlock_new_ok (compiled : collection.compile = .ok rules) (slot : Nat)
    (flags : ScanFlags) (fileSize : UInt64) (clock : Clock) (thorough : flags.fastMode = false)
    (block : Block)
    (each : ∀ definition ∈ rules.strings.toList,
      (definition.occurrences block).length ≤ Context.matchLimit)
    (all : (rules.strings.toList.map fun definition => (definition.occurrences block).length).sum ≤
      Arena.capacity) :
    ∃ count after,
      scanBlock rules block (Context.new rules slot flags fileSize 0 clock) = .ok count after := by
  have ends := scanBlock_new_ends rules slot flags fileSize 0 clock compiled thorough block
  have room : HasRoomFor rules block (Context.new rules slot flags fileSize 0 clock) := by
    constructor
    · intro string definition known
      rw [← Context.length_matchesOf, matchesOf_new, List.length_nil, Nat.zero_add]
      exact each definition (Array.mem_toList_iff.mpr (Array.mem_of_getElem? known))
    · change 0 + _ ≤ _
      rw [Nat.zero_add]
      exact all
  obtain ⟨count, after, same, _⟩ := ends.ok ⟨rfl, room⟩
  exact ⟨count, after, same⟩

/-- Scanning a block in a fresh context records a text or hex pattern once for each offset where it
occurs, and in the order of the offsets if its candidates lie at one distance. Without a time limit
it succeeds if the occurrences of each string and of all of them are not too many. -/
theorem scanBlock_exact (compiled : collection.compile = .ok rules) (slot : Nat)
    (flags : ScanFlags) (fileSize : UInt64) (timeout : Nanoseconds) (clock : Clock)
    (thorough : flags.fastMode = false) (block : Block) :
    (∀ count after,
      scanBlock rules block (Context.new rules slot flags fileSize timeout clock) =
          .ok count after →
        ∀ string definition, rules.strings[string]? = some definition →
          ((∀ regex, definition.pattern ≠ .regex regex) →
            List.Perm (after.matchesOf string) ((List.range block.data.size).filterMap
              fun offset => (definition.matchLength? block.data offset).map
                fun length => ⟨block.base, offset, length,
                  block.data.extract offset (offset + min length 512)⟩)) ∧
          (rules.hasMixedBacktrack string = false →
            (after.matchesOf string).Pairwise fun first second =>
              first.offset < second.offset)) ∧
    (timeout = 0 →
      (∀ definition ∈ rules.strings.toList,
        (definition.occurrences block).length ≤ Context.matchLimit) →
      (rules.strings.toList.map fun definition => (definition.occurrences block).length).sum ≤
        Arena.capacity →
      ∃ count after,
        scanBlock rules block (Context.new rules slot flags fileSize timeout clock) =
          .ok count after) := by
  have ends := scanBlock_new_ends rules slot flags fileSize timeout clock compiled thorough block
  obtain ⟨_, compilation, _, gives⟩ := Collection.compile_eq_ok compiled
  constructor
  · intro count after same string definition known
    have found := ends.of_ok same string
    constructor
    · intro plain
      rw [found]
      exact foundBy_perm_occurrences compiled known
        fun offset length => StringDef.hinted_of_matchLength? plain
    · intro single
      rw [found]
      exact foundBy_increasing known (visitsBefore_inOrder gives.candidatesKnown _) single
  · intro unlimited each all
    rw [unlimited]
    exact scanBlock_new_ok compiled slot flags fileSize clock thorough block each all

theorem few_of_single {definition : StringDef} {block : Block}
    (strings : rules.strings = #[definition])
    (few : (definition.occurrences block).length ≤ Context.matchLimit) :
    (∀ other ∈ rules.strings.toList, (other.occurrences block).length ≤ Context.matchLimit) ∧
      (rules.strings.toList.map fun other => (other.occurrences block).length).sum ≤
        Arena.capacity := by
  rw [strings]
  constructor
  · intro other isString
    rw [List.mem_singleton.mp isString]
    exact few
  · rw [List.map_singleton, List.sum_singleton]
    exact few.trans (by decide)

/-- Of a text that overlaps itself, both occurrences are recorded. -/
theorem scanBlock_exact_overlapping :
    let text : StringDecl := ⟨"a", .text "aa", { }⟩
    let rule : RuleDecl := ⟨"r", none, false, false, [], [text], .found "a"⟩
    let block : Block := ⟨4096, ⟨#[0x61, 0x61, 0x61]⟩⟩
    ∃ rules, ({ rules := [("default", rule)] } : Collection).compile = .ok rules ∧
      ∃ count after,
        scanBlock rules block (Context.new rules 0 { } 3 0 default) = .ok count after ∧
        List.Perm (after.matchesOf 0)
          [⟨4096, 0, 2, ⟨#[0x61, 0x61]⟩⟩, ⟨4096, 1, 2, ⟨#[0x61, 0x61]⟩⟩] := by
  intro text rule block
  let definition : StringDef := ⟨"a", 0, { }, .text [0x61, 0x61]⟩
  have same : ({ rules := [("default", rule)] } : Collection).compilation =
      .ok ⟨#["default"], #[⟨"r", 0, false, false, [0], []⟩], #[definition],
        [[.found 0, .verdict 0]], []⟩ := by with_unfolding_all rfl
  have signs : signsOf [definition] = [⟨[0x61, 0x61], 2, 0⟩] := by with_unfolding_all rfl
  have fits : (Automaton.tablesOf (signsOf [definition]) 1).cells.size ≤ Automaton.tableLimit := by
    refine (Automaton.size_cells_le _ _).trans ?_
    rw [signs]
    decide
  obtain ⟨rules, compiled, gives⟩ := Collection.compile_ok rfl same fits
  obtain ⟨exact, succeeds⟩ :=
    scanBlock_exact compiled 0 { } 3 0 default rfl block
  have occurrences : definition.occurrences block =
      [⟨4096, 0, 2, ⟨#[0x61, 0x61]⟩⟩, ⟨4096, 1, 2, ⟨#[0x61, 0x61]⟩⟩] := by with_unfolding_all rfl
  have strings : rules.strings = #[definition] := gives.sameStrings
  obtain ⟨each, all⟩ := few_of_single strings (by rw [occurrences]; decide)
  obtain ⟨count, after, ended⟩ := succeeds rfl each all
  refine ⟨rules, compiled, count, after, ended, ?_⟩
  have found := (exact count after ended 0 definition (by rw [strings]; rfl)).1
    (by
      intro _ same
      cases same)
  rw [← occurrences]
  exact found

end ByteScan.Scan
