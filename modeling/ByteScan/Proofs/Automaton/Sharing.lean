import ByteScan.Proofs.Automaton.Counting
import ByteScan.Proofs.Automaton.Search
import ByteScan.Proofs.Chosen
import ByteScan.Proofs.RuleSet.Backtrack
import ByteScan.Proofs.Scan.Walking

/-!
# Automata for the signs of some strings

Two automata may share any number of nodes or none: after the same bytes the one for the signs of some
strings has those candidates of the other that are for these strings. There is one if the other does
not have so many states that its own table could be too large.
-/

namespace ByteScan

theorem idxOf?_eq_some_iff {selected : List Nat} (distinct : selected.Nodup) {number index : Nat} :
    selected.idxOf? number = some index ↔ selected[index]? = some number := by
  rw [List.idxOf?_eq_some_iff, List.getElem?_eq_some_iff]
  constructor
  · rintro ⟨within, same, _⟩
    exact ⟨within, same⟩
  · rintro ⟨within, same⟩
    refine ⟨within, same, fun earlier before same' => ?_⟩
    exact Nat.ne_of_lt before ((distinct.getElem_inj_iff).mp (same'.trans same.symm))

theorem eq_iff_of_listed {selected : List Nat} (distinct : selected.Nodup)
    {index number other another : Nat}
    (listed : selected[index]? = some number) (listed' : selected[other]? = some another) :
    index = other ↔ number = another := by
  constructor
  · rintro rfl
    exact Option.some.inj (listed.symm.trans listed')
  · rintro rfl
    have place := (idxOf?_eq_some_iff distinct).mpr listed
    exact Option.some.inj (place.symm.trans ((idxOf?_eq_some_iff distinct).mpr listed'))

/-- The sign for a string that was selected, with the number that this has among those selected. -/
def Sign.select? (selected : List Nat) (sign : Sign) : Option Sign :=
  (selected.idxOf? sign.string).map fun number => { sign with string := number }

theorem Sign.select?_eq_some {selected : List Nat} {sign kept : Sign}
    (same : sign.select? selected = some kept) :
    kept.word = sign.word ∧ kept.backtrack = sign.backtrack ∧
      selected.idxOf? sign.string = some kept.string := by
  obtain ⟨number, listed, rfl⟩ := Option.map_eq_some_iff.mp same
  exact ⟨rfl, rfl, listed⟩

namespace Automaton

variable {signs : List Sign} {selected : List Nat} {strings others : Nat} {whole part : Automaton}

theorem ending_select (signs : List Sign) (selected : List Nat) (text : Word) :
    Sign.ending (signs.filterMap (Sign.select? selected)) text =
      (Sign.ending signs text).filterMap (Sign.select? selected) := by
  rw [Sign.ending, Sign.ending, List.filterMap_flatMap]
  refine List.flatMap_congr fun ending _ => ?_
  rw [List.filter_filterMap, List.filterMap_filter]
  refine List.filterMap_congr fun sign _ => ?_
  cases kept : sign.select? selected with
  | none => simp only [Option.filter_none, ite_self]
  | some other => rw [Option.filter_some, (Sign.select?_eq_some kept).1]

/-! ## Candidates -/

theorem exists_candidate_of_sign (built : ofSigns signs strings = .ok whole) {sign : Sign}
    (member : sign ∈ signs) : ∃ candidate ∈ whole.candidates,
      candidate.backtrack = sign.backtrack ∧ candidate.string = sign.string := by
  obtain ⟨candidate, listed, same⟩ :=
    (exists_candidate_iff built sign.word sign.backtrack sign.string).mpr
      ⟨sign, member, List.suffix_rfl, rfl, rfl⟩
  exact ⟨candidate, mem_of_mem_candidatesAt listed, same⟩

theorem mem_distancesOf_iff (built : ofSigns signs strings = .ok whole) (string : Nat)
    (distance : UInt16) :
    distance ∈ distancesOf whole.candidates.toList string ↔
      ∃ sign ∈ signs, sign.string = string ∧ sign.backtrack = distance := by
  rw [distancesOf, List.mem_map]
  simp only [List.mem_filter, decide_eq_true_eq, Array.mem_toList_iff]
  constructor
  · rintro ⟨candidate, ⟨listed, rfl⟩, rfl⟩
    obtain ⟨sign, member, backtrack, string⟩ := sign_of_candidate built listed
    exact ⟨sign, member, string.symm, backtrack.symm⟩
  · rintro ⟨sign, member, rfl, rfl⟩
    obtain ⟨candidate, listed, backtrack, string⟩ := exists_candidate_of_sign built member
    exact ⟨candidate, ⟨listed, string⟩, backtrack⟩

/-- A candidate of the whole and the one that stands for it in the part. -/
structure CandidateTwin (selected : List Nat) (candidate twin : Candidate) : Prop where
  backtrack : candidate.backtrack = twin.backtrack
  string : selected.idxOf? candidate.string = some twin.string

/-- After the same bytes, the automaton for the signs that are selected has the candidates for the strings
that are. -/
theorem candidatesAt_chosen (built : ofSigns signs strings = .ok whole)
    (built' : ofSigns (signs.filterMap (Sign.select? selected)) others = .ok part) (text : Word) :
    Chosen (CandidateTwin selected) (fun candidate => selected.idxOf? candidate.string = none)
      (whole.candidatesAt (text.foldl whole.step root))
      (part.candidatesAt (text.foldl part.step root)) := by
  let give (distance : UInt16) (string : Nat) : Option (UInt16 × Nat) :=
    (selected.idxOf? string).map (distance, ·)
  have same : (part.candidatesAt (text.foldl part.step root)).map
        (fun candidate => (candidate.backtrack, candidate.string)) =
      (whole.candidatesAt (text.foldl whole.step root)).filterMap fun candidate =>
        give candidate.backtrack candidate.string := by
    have ofWhole := candidatesAt_foldl_step built text
    calc
      _ = ((Sign.ending signs text).filterMap (Sign.select? selected)).map
            fun sign => (sign.backtrack, sign.string) := by
          rw [candidatesAt_foldl_step built', ending_select]
      _ = ((Sign.ending signs text).map fun sign => (sign.backtrack, sign.string)).filterMap
            fun pair => give pair.1 pair.2 := by
          rw [List.map_filterMap, List.filterMap_map]
          refine List.filterMap_congr fun sign _ => ?_
          simp only [Sign.select?, Option.map_map, Function.comp_def, give]
      _ = _ := by rw [← ofWhole, List.filterMap_map]; rfl
  refine (Chosen.of_map_eq same).imp ?_ ?_
  · intro candidate twin given
    obtain ⟨number, listed, isPair⟩ := Option.map_eq_some_iff.mp given
    obtain ⟨backtrack, rfl⟩ := Prod.mk.inj isPair
    exact ⟨backtrack, listed⟩
  · exact fun candidate lacking => Option.map_eq_none_iff.mp lacking

theorem mem_distancesOf_select (built : ofSigns signs strings = .ok whole)
    (built' : ofSigns (signs.filterMap (Sign.select? selected)) others = .ok part)
    (distinct : selected.Nodup) {number index : Nat} (listed : selected[index]? = some number)
    (distance : UInt16) :
    distance ∈ distancesOf part.candidates.toList index ↔
      distance ∈ distancesOf whole.candidates.toList number := by
  rw [mem_distancesOf_iff built', mem_distancesOf_iff built]
  constructor
  · rintro ⟨kept, member, rfl, rfl⟩
    obtain ⟨sign, inWhole, same⟩ := List.mem_filterMap.mp member
    obtain ⟨_, backtrack, place⟩ := Sign.select?_eq_some same
    have isListed := (idxOf?_eq_some_iff distinct).mp place
    rw [listed] at isListed
    exact ⟨sign, inWhole, (Option.some.inj isListed).symm, backtrack.symm⟩
  · rintro ⟨sign, member, rfl, rfl⟩
    have place := (idxOf?_eq_some_iff distinct).mpr listed
    refine ⟨{ sign with string := index }, List.mem_filterMap.mpr ⟨sign, member, ?_⟩, rfl, rfl⟩
    rw [Sign.select?, place, Option.map_some]

/-! ## The size of the table -/

/-- There are no more states than cells, but for the first one. -/
theorem stateCount_le (automaton : Automaton) :
    automaton.stateCount ≤ automaton.cells.size + 1 := by
  rw [stateCount, Nat.add_comm]
  refine Nat.add_le_add_right (List.countP_le_length.trans ?_) 1
  rw [List.length_zipIdx, Array.length_toList]

theorem length_wordsOf_select_le (signs : List Sign) (selected : List Nat) :
    (wordsOf (signs.filterMap (Sign.select? selected))).length ≤ (wordsOf signs).length := by
  refine (List.subperm_of_subset (Trie.words_nodup _) ?_).length_le
  intro word member
  refine (Trie.mem_words _ word).mpr (((Trie.mem_words _ word).mp member).imp_right ?_)
  rintro ⟨longer, isGiven, begins⟩
  obtain ⟨kept, inPart, rfl⟩ := List.mem_map.mp isGiven
  obtain ⟨sign, inWhole, same⟩ := List.mem_filterMap.mp inPart
  rw [(Sign.select?_eq_some same).1] at begins
  exact ⟨sign.word, List.mem_map_of_mem inWhole, begins⟩

/-- Unless the automaton has very many states, that for the signs that are selected is not too large. -/
theorem size_cells_select_le (built : ofSigns signs strings = .ok whole)
    (few : whole.stateCount * stateSpan ≤ tableLimit) (selected : List Nat) (others : Nat) :
    (tablesOf (signs.filterMap (Sign.select? selected)) others).cells.size ≤ tableLimit := by
  rw [size_tablesOf_cells]
  refine (tableSize_le _).trans ((Nat.mul_le_mul_right _ ?_).trans few)
  exact (length_wordsOf_select_le signs selected).trans (stateCount_eq built).ge

end Automaton

end ByteScan
