import ByteScan.Pattern.Occurrence
import ByteScan.Proofs.RuleSet.Restricting

/-!
# Rule sets for one namespace

The rule set for one namespace of a collection knows the same strings under other numbers, and its
automaton has the same candidates for them: `Excerpt`. There is such a rule set unless its table is too
large, which takes very many states: `compile_only`.
-/

namespace ByteScan

/-! ## Strings and candidates -/

theorem StringDef.matchLength?_unnumbered (string : StringDef) (data : ByteArray) (offset : Nat) :
    string.unnumbered.matchLength? data offset = string.matchLength? data offset := by
  obtain ⟨identifier, rule, modifiers, pattern⟩ := string
  cases pattern <;> rfl

theorem StringDef.matchLength?_eq {string twin : StringDef}
    (alike : string.unnumbered = twin.unnumbered) (data : ByteArray) (offset : Nat) :
    twin.matchLength? data offset = string.matchLength? data offset := by
  rw [← twin.matchLength?_unnumbered, ← alike, string.matchLength?_unnumbered]

theorem differ_iff {distances : List UInt16} :
    Differ distances ↔ ∃ first ∈ distances, ∃ second ∈ distances, first ≠ second := by
  constructor
  · rintro ⟨first, rest, rfl, other, member, different⟩
    exact ⟨other, List.mem_cons_of_mem _ member, first, List.mem_cons_self, different⟩
  · rintro ⟨first, inFirst, second, inSecond, different⟩
    cases distances with
    | nil => cases inFirst
    | cons head rest =>
        refine ⟨head, rest, rfl, ?_⟩
        by_cases same : first = head
        · subst same
          exact ⟨second, List.mem_of_ne_of_mem (Ne.symm different) inSecond, Ne.symm different⟩
        · exact ⟨first, List.mem_of_ne_of_mem same inFirst, same⟩

/-- The part knows some strings of the whole and has the candidates for them. -/
structure Excerpt (selected : List Nat) (whole part : RuleSet) : Prop where
  distinct : selected.Nodup
  alike : ∀ (index number : Nat), selected[index]? = some number →
    ∃ string twin, whole.strings[number]? = some string ∧ part.strings[index]? = some twin ∧
      string.unnumbered = twin.unnumbered
  mixed : ∀ (index number : Nat), selected[index]? = some number →
    part.hasMixedBacktrack index = whole.hasMixedBacktrack number
  candidates : ∀ text : Word,
    Chosen (Automaton.CandidateTwin selected) (fun candidate => selected.idxOf? candidate.string = none)
      (whole.automaton.candidatesAt (text.foldl whole.automaton.step Automaton.root))
      (part.automaton.candidatesAt (text.foldl part.automaton.step Automaton.root))

namespace Collection

section

variable {collection other : Collection} {compilation compilation' : Compilation}
  {whole part : RuleSet} {space : String} {selection : Selection}
  (gives : collection.Gives compilation whole) (gives' : other.Gives compilation' part)
  (selected : Selected space selection compilation compilation')
include gives gives' selected

theorem Gives.excerpt : Excerpt selection.strings whole part := by
  have strings := selected.strings
  have built := gives.built
  have built' := gives'.built
  rw [gives'.sameStrings, strings.signs, ← gives.sameStrings] at built'
  have alike (index number : Nat) (listed : selection.strings[index]? = some number) :
      ∃ string twin, whole.strings[number]? = some string ∧ part.strings[index]? = some twin ∧
        string.unnumbered = twin.unnumbered := by
    rw [gives.sameStrings, gives'.sameStrings]
    exact strings.alike index number listed
  refine ⟨strings.distinct, alike, ?_, Automaton.candidatesAt_chosen built built'⟩
  intro index number listed
  obtain ⟨string, twin, isString, isTwin, _⟩ := alike index number listed
  have inWhole := (Array.getElem?_eq_some_iff.mp isString).1
  have inPart := (Array.getElem?_eq_some_iff.mp isTwin).1
  rw [RuleSet.hasMixedBacktrack, RuleSet.hasMixedBacktrack, whole.mixed_eq, part.mixed_eq,
    Bool.eq_iff_iff, mixedBacktracks_eq_true _ inWhole, mixedBacktracks_eq_true _ inPart,
    differ_iff, differ_iff]
  simp only [Automaton.mem_distancesOf_select built built' strings.distinct listed]

end

/-- A collection the rules of which compile gives no rule set where the table is too large. -/
theorem compile_error {collection : Collection} {compilation : Compilation}
    (distinct : firstRepeated? [] (collection.externals.map External.identifier) = none)
    (same : collection.compilation = .ok compilation)
    (large : Automaton.tableLimit < (Automaton.tablesOf (signsOf compilation.strings.toList)
      compilation.strings.size).cells.size) :
    collection.compile = .error (.rules .insufficientMemory) := by
  have failed : Automaton.ofSigns (signsOf compilation.strings.toList) compilation.strings.size =
      .error .tooLarge := if_pos large
  rw [Collection.compilation] at same
  simp only [compile, distinct, same, failed, bind, Except.bind]
  rfl

/-- If a collection compiles, so do the rules of one of its namespaces, unless their table is too large.
It is not if there is room for the reaches of all states of the automaton for the collection. -/
theorem compile_only {collection : Collection} {compilation : Compilation} {whole : RuleSet}
    (distinct : firstRepeated? [] (collection.externals.map External.identifier) = none)
    (same : collection.compilation = .ok compilation) (gives : collection.Gives compilation whole)
    (space : String) :
    ((collection.only space).compile = .error (.rules .insufficientMemory) ∧
        Automaton.tableLimit < whole.automaton.stateCount * stateSpan) ∨
      ∃ selection compilation' part, (collection.only space).compile = .ok part ∧
        (collection.only space).Gives compilation' part ∧
        (collection.only space).compilation = .ok compilation' ∧
        Selected space selection compilation compilation' := by
  obtain ⟨selection, compilation', same', selected⟩ := compilation_only same space
  have distinct' : firstRepeated? [] ((collection.only space).externals.map External.identifier) =
      none := distinct
  by_cases fits : (Automaton.tablesOf (signsOf compilation'.strings.toList)
      compilation'.strings.size).cells.size ≤ Automaton.tableLimit
  · obtain ⟨part, compiled', gives'⟩ := compile_ok distinct' same' fits
    exact .inr ⟨selection, compilation', part, compiled', gives', same', selected⟩
  · refine .inl ⟨compile_error distinct' same' (Nat.lt_of_not_le fits), ?_⟩
    by_contra few
    refine fits ?_
    rw [selected.strings.signs, ← gives.sameStrings]
    exact Automaton.size_cells_select_le gives.built (Nat.le_of_not_lt few) _ _

end Collection

end ByteScan
