import ByteScan.Proofs.Automaton.Checked
import ByteScan.RuleSet.Compilation

/-!
# What compiling gives

`Collection.compile_eq_ok` takes a compiled rule set apart. Its automaton is the one for the atoms of
its strings, so every candidate is for one of them.
-/

namespace ByteScan

/-! ## Signs of strings -/

theorem mem_signsOf {strings : List StringDef} {sign : Sign} :
    sign ∈ signsOf strings ↔ ∃ string, strings[sign.string]? = some string ∧
      ∃ atom ∈ Atom.ofString string, sign.word = atom.bytes ∧ sign.backtrack = atom.backtrack := by
  simp only [signsOf, List.mem_flatMap, List.mem_map, Prod.exists, List.mem_zipIdx_iff_getElem?]
  constructor
  · rintro ⟨string, number, found, atom, listed, rfl⟩
    exact ⟨string, found, atom, listed, rfl, rfl⟩
  · rintro ⟨string, found, atom, listed, word, backtrack⟩
    refine ⟨string, sign.string, found, atom, listed, ?_⟩
    rw [← word, ← backtrack]

theorem string_lt_of_mem_signsOf {strings : List StringDef} {sign : Sign}
    (member : sign ∈ signsOf strings) : sign.string < strings.length := by
  obtain ⟨_, found, _⟩ := mem_signsOf.mp member
  exact (List.getElem?_eq_some_iff.mp found).1

/-! ## Compiled collections -/

theorem firstRepeated?_eq_none_iff {seen names : List String} :
    firstRepeated? seen names = none ↔ names.Nodup ∧ ∀ name ∈ names, name ∉ seen := by
  induction names generalizing seen with
  | nil => simp [firstRepeated?]
  | cons name names ih =>
      rw [firstRepeated?]
      by_cases repeated : name ∈ seen
      · simp [repeated]
      · simp only [List.contains_eq_mem, repeated, decide_false, Bool.false_eq_true, if_false, ih,
          List.nodup_cons, List.mem_cons]
        grind

namespace Collection

/-- What is compiled before the automaton is built. -/
def compilation (collection : Collection) : Except CompileError Compilation :=
  Compilation.addRules ⟨#[], #[], #[], [], collection.externals.map External.identifier⟩
    collection.rules

/-- The rule set is made of what has been compiled, and its automaton of the atoms of the strings. -/
structure Gives (collection : Collection) (compilation : Compilation) (rules : RuleSet) : Prop where
  sameSpaces : rules.spaces = compilation.spaces
  sameRules : rules.rules = compilation.rules
  sameStrings : rules.strings = compilation.strings
  sameExternals : rules.externals = collection.externals
  built : Automaton.ofSigns (signsOf rules.strings.toList) rules.strings.size = .ok rules.automaton
  sameCode : rules.code = encodeAll (compilation.code.reverse.flatten ++ [.halt])
  start : rules.codeStart = 0

theorem compile_eq_ok {collection : Collection} {rules : RuleSet}
    (compiled : collection.compile = .ok rules) :
    firstRepeated? [] (collection.externals.map External.identifier) = none ∧
      ∃ compilation, collection.compilation = .ok compilation ∧
        collection.Gives compilation rules := by
  simp only [compile, bind, Except.bind] at compiled
  split at compiled
  · cases compiled
  · rename_i distinct
    split at compiled
    · cases compiled
    · rename_i compilation same
      split at compiled
      · cases compiled
      · rename_i automaton built
        cases compiled
        refine ⟨Option.eq_none_iff_forall_ne_some.mpr distinct, compilation, same, ?_⟩
        exact ⟨rfl, rfl, rfl, rfl, built, rfl, rfl⟩

/-- A collection the rules of which compile gives a rule set if the table is not too large. -/
theorem compile_ok {collection : Collection} {compilation : Compilation}
    (distinct : firstRepeated? [] (collection.externals.map External.identifier) = none)
    (same : collection.compilation = .ok compilation)
    (fits : (Automaton.tablesOf (signsOf compilation.strings.toList)
      compilation.strings.size).cells.size ≤ Automaton.tableLimit) :
    ∃ rules, collection.compile = .ok rules ∧ collection.Gives compilation rules := by
  rw [Automaton.size_tablesOf_cells] at fits
  obtain ⟨automaton, built⟩ := Automaton.ofSigns_ok fits fun _ => string_lt_of_mem_signsOf
  rw [Collection.compilation] at same
  rw [Array.length_toList] at built
  simp only [compile, distinct, same, built, bind, Except.bind]
  exact ⟨_, rfl, rfl, rfl, rfl, rfl, built, rfl, rfl⟩

theorem Gives.fits {collection : Collection} {compilation : Compilation} {rules : RuleSet}
    (gives : collection.Gives compilation rules) :
    (Automaton.tablesOf (signsOf compilation.strings.toList)
      compilation.strings.size).cells.size ≤ Automaton.tableLimit := by
  rw [Automaton.size_tablesOf_cells, ← gives.sameStrings]
  exact (Automaton.of_ofSigns gives.built).1

/-- Other values of the variables give the same rule set with these values. -/
theorem compile_withExternals {collection : Collection} {rules : RuleSet}
    {externals : List External} (compiled : collection.compile = .ok rules)
    (same : externals.map External.identifier = collection.externals.map External.identifier) :
    ({ collection with externals } : Collection).compile = .ok (rules.withExternals externals) := by
  simp only [compile, same, bind, Except.bind] at compiled ⊢
  split at compiled
  · cases compiled
  · split at compiled
    · cases compiled
    · split at compiled
      · cases compiled
      · cases compiled
        rfl

theorem Gives.candidatesKnown {collection : Collection} {compilation : Compilation}
    {rules : RuleSet} (gives : collection.Gives compilation rules) :
    ∀ candidate ∈ rules.automaton.candidates, candidate.string < rules.strings.size := by
  intro candidate listed
  obtain ⟨sign, member, _, same⟩ := Automaton.sign_of_candidate gives.built listed
  rw [same]
  exact string_lt_of_mem_signsOf member

end Collection

end ByteScan
