import ByteScan.Proofs.Regex.Prefix
import ByteScan.Proofs.Scan.Exactness

/-!
# Which occurrences of a regular expression are found

A regular expression is looked for where the bytes stand that `regexPrefix` takes from its text.
What a scan records of it is therefore exactly its occurrences that begin with those bytes, and all
of its occurrences where `Regex.keepsPrefix` holds of the text.
-/

namespace ByteScan.Scan

open Atom

/-- The bytes that are taken for the first ones of an expression stand at its occurrences if none of
the parts that they come from may be left out. -/
theorem prefix_of_matchLength? {string : StringDef} {regex : Regex string.modifiers.nocase}
    (isRegex : string.pattern = .regex regex) (kept : Regex.keepsPrefix regex.source = true)
    {data : ByteArray} {offset length : Nat}
    (occurs : string.matchLength? data offset = some length) :
    textStandsAt string.modifiers.nocase false data ((regexPrefix regex.source).take lengthLimit)
      offset = true := by
  unfold StringDef.matchLength? at occurs
  rw [isRegex] at occurs
  split at occurs
  · cases occurs
  · dsimp only at occurs
    split at occurs
    · rename_i found
      obtain ⟨stop, ends, _⟩ := Option.map_eq_some_iff.mp found
      exact Regex.prefix_stands kept ends
    · cases occurs

theorem matchesOf_regex_perm {collection : Collection} {rules : RuleSet}
    (compiled : collection.compile = .ok rules) {string : StringDef}
    {regex : Regex string.modifiers.nocase} (isRegex : string.pattern = .regex regex) {number : Nat}
    (known : rules.strings[number]? = some string) {slot : Nat} {flags : ScanFlags}
    {fileSize : UInt64} {timeout : Nanoseconds} {clock : Clock} (thorough : flags.fastMode = false)
    {block : Block} {count : Nat} {after : Context}
    (scanned : scanBlock rules block (Context.new rules slot flags fileSize timeout clock) =
      .ok count after) :
    List.Perm (after.matchesOf number)
      (((List.range block.data.size).filter fun offset =>
        textStandsAt string.modifiers.nocase false block.data
          ((regexPrefix regex.source).take lengthLimit) offset).filterMap
        fun offset => string.matchAt? block offset) := by
  have found := (scanBlock_new_ends rules slot flags fileSize timeout clock compiled thorough
    block).of_ok scanned number
  rw [found]
  apply foundBy_perm compiled known
  intro offset length occurs
  have within := Nat.le_of_lt (StringDef.lt_size_of_matchLength? occurs)
  exact (StringDef.hinted_iff_of_regex isRegex within).symm

/-- A scan records a regular expression exactly at those of its occurrences that begin with the
bytes taken for its first ones. These are all of its occurrences if none of the parts that the bytes
come from may be left out. -/
theorem scanBlock_regex_exact {string : StringDef} {regex : Regex string.modifiers.nocase}
    (isRegex : string.pattern = .regex regex) :
    (Regex.keepsPrefix regex.source = true → ∀ (data : ByteArray) (offset length : Nat),
      string.matchLength? data offset = some length →
        textStandsAt string.modifiers.nocase false data ((regexPrefix regex.source).take 4)
          offset = true) ∧
    ∀ (collection : Collection) (rules : RuleSet), collection.compile = .ok rules →
      ∀ number, rules.strings[number]? = some string →
        ∀ (slot : Nat) (flags : ScanFlags) (fileSize : UInt64) (timeout : Nanoseconds)
          (clock : Clock), flags.fastMode = false → ∀ block : Block,
          (∀ count after,
            scanBlock rules block (Context.new rules slot flags fileSize timeout clock) =
                .ok count after →
              List.Perm (after.matchesOf number)
                (((List.range block.data.size).filter fun offset =>
                  textStandsAt string.modifiers.nocase false block.data
                    ((regexPrefix regex.source).take 4) offset).filterMap
                  fun offset => (string.matchLength? block.data offset).map
                    fun length => ⟨block.base, offset, length,
                      block.data.extract offset (offset + min length 512)⟩) ∧
              (Regex.keepsPrefix regex.source = true → ∀ offset length,
                string.matchLength? block.data offset = some length →
                  (⟨block.base, offset, length,
                    block.data.extract offset (offset + min length 512)⟩ : Match) ∈
                      after.matchesOf number)) ∧
          (timeout = 0 →
            (∀ definition ∈ rules.strings.toList,
              (definition.occurrences block).length ≤ Context.matchLimit) →
            (rules.strings.toList.map
              fun definition => (definition.occurrences block).length).sum ≤ Arena.capacity →
            ∃ count after,
              scanBlock rules block (Context.new rules slot flags fileSize timeout clock) =
                .ok count after) := by
  constructor
  · intro kept data offset length occurs
    exact prefix_of_matchLength? isRegex kept occurs
  · intro collection rules compiled number known slot flags fileSize timeout clock thorough block
    constructor
    · intro count after scanned
      have exact := matchesOf_regex_perm compiled isRegex known thorough scanned
      refine ⟨exact, ?_⟩
      intro kept offset length occurs
      apply exact.mem_iff.mpr
      refine List.mem_filterMap.mpr ⟨offset, ?_, ?_⟩
      · have within := List.mem_range.mpr (StringDef.lt_size_of_matchLength? occurs)
        exact List.mem_filter.mpr ⟨within, prefix_of_matchLength? isRegex kept occurs⟩
      · rw [StringDef.matchAt?, occurs]
        rfl
    · intro unlimited each all
      rw [unlimited]
      exact scanBlock_new_ok compiled slot flags fileSize clock thorough block each all

/-! ## One expression -/

def ruleOf (source : String) : RuleDecl :=
  ⟨"r", none, false, false, [], [⟨"a", .regex source, { }⟩], .found "a"⟩

theorem compilation_ruleOf {source : String} (some : source.isEmpty = false)
    {program : Regex.Program} (compiled : Regex.compile source false = .ok program) :
    ({ rules := [("default", ruleOf source)] } : Collection).compilation =
      .ok ⟨#["default"], #[⟨"r", 0, false, false, [0], []⟩],
        #[⟨"a", 0, { }, .regex ⟨source, program, compiled⟩⟩], [[.found 0, .verdict 0]], []⟩ := by
  have made : StringDecl.compile ⟨"a", .regex source, { }⟩ "r" 0 =
      .ok ⟨"a", 0, { }, .regex ⟨source, program, compiled⟩⟩ := by
    unfold StringDecl.compile
    simp only [some, Bool.false_eq_true, if_false, Regex.ofSource_eq compiled]
  have fresh : (#[] : Array String).idxOf? "default" = none := by decide +kernel
  have size : (#[] : Array Rule).size = 0 := rfl
  unfold Collection.compilation ruleOf
  simp only [Compilation.addRules, Compilation.addRule, Compilation.addStrings, Compilation.enter,
    fresh, size, made]
  with_unfolding_all rfl

theorem compile_ruleOf {source : String} (some : source.isEmpty = false)
    {program : Regex.Program} (compiled : Regex.compile source false = .ok program) (atom : Atom)
    (chosen : ofForms false ((regexPrefix source).take lengthLimit) = [atom])
    (filled : atom.bytes.isEmpty = false) (short : atom.bytes.length ≤ lengthLimit) :
    ∃ rules, ({ rules := [("default", ruleOf source)] } : Collection).compile = .ok rules ∧
      rules.strings = #[⟨"a", 0, { }, .regex ⟨source, program, compiled⟩⟩] := by
  have atoms : ofString ⟨"a", 0, { }, .regex ⟨source, program, compiled⟩⟩ = [atom] := by
    unfold ofString
    rw [candidates_of_regex rfl, chosen]
    simp only [sorted, List.mergeSort_singleton, dropRepeated, List.isEmpty_cons, List.any_cons,
      List.any_nil, filled, Bool.or_false, Bool.false_eq_true, if_false]
  have signs : signsOf [⟨"a", 0, { }, .regex ⟨source, program, compiled⟩⟩] =
      [⟨atom.bytes, atom.backtrack, 0⟩] := by
    change (ofString _).map _ ++ [] = _
    rw [atoms]
    rfl
  have few : (Automaton.tablesOf (signsOf [⟨"a", 0, { }, .regex ⟨source, program, compiled⟩⟩])
      1).cells.size ≤ Automaton.tableLimit := by
    refine (Automaton.size_cells_le _ _).trans ?_
    rw [signs]
    simp only [List.map_cons, List.map_nil, List.flatMap_cons, List.flatMap_nil, List.append_nil,
      Word.beginnings, List.length_map, List.length_range]
    unfold lengthLimit at short
    simp only [Automaton.tableLimit, stateSpan, UInt32.size]
    omega
  obtain ⟨rules, isCompiled, gives⟩ :=
    Collection.compile_ok rfl (compilation_ruleOf some compiled) few
  exact ⟨rules, isCompiled, gives.sameStrings⟩

/-- Of an expression whose first two characters have to be there, the occurrence is recorded. -/
theorem scanBlock_regex_exact_plus :
    let block : Block := ⟨4096, ⟨#[0x78, 0x61, 0x62, 0x62]⟩⟩
    Regex.keepsPrefix "ab+" = true ∧
      ∃ rules, ({ rules := [("default", ruleOf "ab+")] } : Collection).compile = .ok rules ∧
        ∃ count after,
          scanBlock rules block (Context.new rules 0 { } 4 0 default) = .ok count after ∧
          (⟨4096, 1, 3, ⟨#[0x61, 0x62, 0x62]⟩⟩ : Match) ∈ after.matchesOf 0 := by
  intro block
  have parsed : Regex.parse (Regex.anchored "ab+").toList =
      .ok (.concatenation [.anchor .startLine, .group false []
        (.concatenation [.ofChar 'a', .repetition 1 none true (.ofChar 'b')])]) := rfl
  let expression : Regex.Expression := .sequence [.look .start, .sequence [.set (.singleton 0x61),
    .repetition 1 none true (.set (.singleton 0x62))]]
  have compiled : Regex.compile "ab+" false = .ok expression.program :=
    Regex.compile_ok parsed (by decide) rfl (by decide +kernel)
  have kept : Regex.keepsPrefix "ab+" = true := by
    unfold Regex.keepsPrefix
    rw [parsed]
    rfl
  have first : regexPrefix "ab+" = [0x61, 0x62] := by decide
  obtain ⟨rules, isCompiled, strings⟩ := compile_ruleOf rfl compiled ⟨[0x61, 0x62], 2⟩
    (by rw [first]; rfl) rfl (by decide)
  let definition : StringDef := ⟨"a", 0, { }, .regex ⟨"ab+", expression.program, compiled⟩⟩
  have known : rules.strings[0]? = some definition := by
    rw [strings]
    rfl
  have isRegex : definition.pattern = .regex ⟨"ab+", expression.program, compiled⟩ := rfl
  obtain ⟨exact, succeeds⟩ := (scanBlock_regex_exact isRegex).2 _ rules isCompiled 0 known 0 { } 4 0
    default rfl block
  have few : (definition.occurrences block).length ≤ Context.matchLimit :=
    (List.length_filterMap_le ..).trans (by decide)
  obtain ⟨each, all⟩ := few_of_single strings few
  obtain ⟨count, after, scanned⟩ := succeeds rfl each all
  refine ⟨kept, rules, isCompiled, count, after, scanned, ?_⟩
  have occurs : definition.matchLength? block.data 1 = some 3 := by
    simp only [definition, StringDef.matchLength?, Regex.matchLength?]
    decide +kernel
  exact (exact count after scanned).2 kept 1 3 occurs

/-- Where a plus sign is itself repeated, the character before it may be left out. A scan misses the
occurrence that begins without it. -/
theorem scanBlock_regex_missed :
    let block : Block := ⟨0, ⟨#[0x62]⟩⟩
    ∃ rules, ({ rules := [("default", ruleOf "a+*b")] } : Collection).compile = .ok rules ∧
      ∃ string, rules.strings[0]? = some string ∧
        string.matchLength? block.data 0 = some 1 ∧
        textStandsAt false false block.data ((regexPrefix "a+*b").take 4) 0 = false ∧
        ∃ count after,
          scanBlock rules block (Context.new rules 0 { } 1 0 default) = .ok count after ∧
          after.matchesOf 0 = [] := by
  intro block
  let expression : Regex.Expression := .sequence [.look .start, .sequence
    [.repetition 0 none true (.repetition 1 none true (.set (.singleton 0x61))),
      .set (.singleton 0x62)]]
  have parsed : Regex.parse (Regex.anchored "a+*b").toList =
      .ok (.concatenation [.anchor .startLine, .group false []
        (.concatenation [.repetition 0 none true (.repetition 1 none true (.ofChar 'a')),
          .ofChar 'b'])]) := rfl
  have compiled : Regex.compile "a+*b" false = .ok expression.program :=
    Regex.compile_ok parsed (by decide) rfl (by decide +kernel)
  have first : regexPrefix "a+*b" = [0x61] := by decide
  obtain ⟨rules, isCompiled, strings⟩ := compile_ruleOf rfl compiled ⟨[0x61], 1⟩
    (by rw [first]; rfl) rfl (by decide)
  let definition : StringDef := ⟨"a", 0, { }, .regex ⟨"a+*b", expression.program, compiled⟩⟩
  have known : rules.strings[0]? = some definition := by
    rw [strings]
    rfl
  have absent : textStandsAt false false block.data ((regexPrefix "a+*b").take 4) 0 = false := by
    rw [first]
    rfl
  have few : (definition.occurrences block).length ≤ Context.matchLimit :=
    (List.length_filterMap_le ..).trans (by decide)
  obtain ⟨each, all⟩ := few_of_single strings few
  obtain ⟨count, after, scanned⟩ :=
    scanBlock_new_ok isCompiled 0 { } 1 default rfl block each all
  have isRegex : definition.pattern = .regex ⟨"a+*b", expression.program, compiled⟩ := rfl
  have found := matchesOf_regex_perm isCompiled isRegex known rfl scanned
  have untold : (List.range block.data.size).filter (fun offset =>
      textStandsAt false false block.data ((regexPrefix "a+*b").take lengthLimit) offset) = [] := by
    refine List.filter_eq_nil_iff.mpr ?_
    intro offset listed
    have zero : offset = 0 := Nat.lt_one_iff.mp (List.mem_range.mp listed)
    rw [zero]
    exact ne_true_of_eq_false absent
  have occurs : definition.matchLength? block.data 0 = some 1 := by
    simp only [definition, StringDef.matchLength?, Regex.matchLength?]
    decide +kernel
  refine ⟨rules, isCompiled, definition, known, occurs, absent, count, after, scanned, ?_⟩
  apply List.perm_nil.mp
  have nothing := congrArg (List.filterMap fun offset => definition.matchAt? block offset) untold
  exact found.trans (List.Perm.of_eq nothing)

end ByteScan.Scan
