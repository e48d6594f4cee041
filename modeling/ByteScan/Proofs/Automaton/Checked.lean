import ByteScan.Proofs.Automaton.Candidates
import ByteScan.Proofs.Automaton.Survey

/-!
# The check of built tables

The tables that are built for some signs pass `Tables.check` where every sign belongs to a string,
and fail it for the candidate of a sign that does not.
-/

namespace ByteScan

namespace Tables

/-! ## The parts of the check -/

theorem checkCells_eq_ok (last index : Nat) (cells : List Cell)
    (below : ∀ cell ∈ cells, cell.target ≤ last) : checkCells last index cells = .ok () := by
  induction cells generalizing index with
  | nil => rfl
  | cons cell rest ih =>
      rw [checkCells, if_neg (Nat.not_lt.mpr (below cell (List.mem_cons_self ..)))]
      exact ih _ fun other member => below other (List.mem_cons_of_mem _ member)

theorem checkHeads_eq_ok (count : Nat) (heads : List (Option Nat))
    (below : ∀ head, some head ∈ heads → head < count) : checkHeads count heads = .ok () := by
  induction heads with
  | nil => rfl
  | cons first rest ih =>
      have rest_ok := ih fun head member => below head (List.mem_cons_of_mem _ member)
      cases first with
      | none => exact rest_ok
      | some head =>
          rw [checkHeads, if_neg (Nat.not_le.mpr (below head (List.mem_cons_self ..)))]
          exact rest_ok

/-- Each candidate goes on with one that comes before it, when the first has the index `index`. -/
def LinkedBack (index : Nat) (candidates : List Candidate) : Prop :=
  ∀ (place : Nat) candidate, candidates[place]? = some candidate →
    ∀ next, candidate.next = some next → next < index + place

theorem LinkedBack.tail {index : Nat} {first : Candidate} {rest : List Candidate}
    (back : LinkedBack index (first :: rest)) : LinkedBack (index + 1) rest := by
  intro place candidate found next isNext
  have bound := back (place + 1) candidate (by rwa [List.getElem?_cons_succ]) next isNext
  omega

theorem checkCandidates_cons {strings index : Nat} {first : Candidate} {rest : List Candidate}
    (back : LinkedBack index (first :: rest)) (known : first.string < strings) :
    checkCandidates strings index (first :: rest) = checkCandidates strings (index + 1) rest := by
  rw [checkCandidates, if_neg (Nat.not_le.mpr known)]
  cases goesOn : first.next with
  | none => rfl
  | some next =>
      have bound := back 0 first rfl next goesOn
      simp only
      rw [if_neg (by omega)]

theorem checkCandidates_eq_ok (strings index : Nat) (candidates : List Candidate)
    (back : LinkedBack index candidates)
    (known : ∀ candidate ∈ candidates, candidate.string < strings) :
    checkCandidates strings index candidates = .ok () := by
  induction candidates generalizing index with
  | nil => rfl
  | cons first rest ih =>
      rw [checkCandidates_cons back (known first (List.mem_cons_self ..))]
      exact ih _ back.tail fun other member => known other (List.mem_cons_of_mem _ member)

theorem checkCandidates_eq_error (strings index : Nat) (candidates : List Candidate)
    (back : LinkedBack index candidates)
    (unknown : ∃ candidate ∈ candidates, strings ≤ candidate.string) :
    ∃ culprit, checkCandidates strings index candidates = .error (.unknownString culprit) := by
  induction candidates generalizing index with
  | nil =>
      obtain ⟨candidate, member, _⟩ := unknown
      cases member
  | cons first rest ih =>
      by_cases known : first.string < strings
      · rw [checkCandidates_cons back known]
        refine ih _ back.tail ?_
        obtain ⟨candidate, member, beyond⟩ := unknown
        rcases List.mem_cons.mp member with rfl | later
        · omega
        · exact ⟨candidate, later, beyond⟩
      · rw [checkCandidates, if_pos (Nat.le_of_not_lt known)]
        exact ⟨index, rfl⟩

theorem forM_eq_ok {check : Nat → Except Fault Unit} {states : List Nat}
    (passes : ∀ state ∈ states, check state = .ok ()) : states.forM check = .ok () := by
  induction states with
  | nil => rfl
  | cons first rest ih =>
      have opened : (first :: rest).forM check = check first >>= fun _ => rest.forM check := rfl
      rw [opened, passes first (List.mem_cons_self ..)]
      exact ih fun state member => passes state (List.mem_cons_of_mem _ member)

/-- The check of tables is that of their candidates, if all else is in order. -/
theorem check_eq {tables : Tables} {found : Survey} (long : stateSpan ≤ tables.cells.size)
    (sizes : tables.heads.size = tables.cells.size)
    (targets : ∀ cell ∈ tables.cells.toList, cell.target ≤ tables.cells.size - stateSpan)
    (reached : tables.reach = .ok found)
    (failures : ∀ state ∈ found.order.toList.drop 1, tables.checkFailure found state = .ok ())
    (heads : ∀ head, some head ∈ tables.heads.toList → head < tables.candidates.size) :
    tables.check = checkCandidates tables.strings 0 tables.candidates.toList := by
  simp only [check, if_neg (Nat.not_lt.mpr long), sizes, ne_eq, not_true_eq_false, if_false,
    checkCells_eq_ok _ 0 _ targets, reached, checkHeads_eq_ok _ _ heads, bind, Except.bind,
    forM_eq_ok failures]

end Tables

namespace Automaton

variable {signs : List Sign} {strings : Nat}

section

variable (fits : tableSize (placedOf signs) ≤ tableLimit)
include fits

theorem checkFailure_word {words : List Word} {found : Tables.Survey}
    (known : Surveyed signs words found) (all : ∀ word ∈ wordsOf signs, word ∈ words) {word : Word}
    (listed : word ∈ wordsOf signs) (filled : word ≠ []) :
    (tablesOf signs strings).checkFailure found (positionAt signs word) = .ok () := by
  have shorter : (failureOf signs word).length < word.length := Trie.length_failureWord_lt _ filled
  have failure := failureOf_mem signs word
  rw [Tables.checkFailure, failureOf_positionAt fits listed, known.depth _ failure,
    known.depth _ listed, if_pos (all _ failure), if_pos (all _ listed)]
  simp only [Option.getD_some, if_pos shorter]

theorem check_tablesOf :
    (tablesOf signs strings).check =
      Tables.checkCandidates strings 0 (tablesOf signs strings).candidates.toList := by
  obtain ⟨words, found, reached, known, distinct, head, all⟩ :=
    reach_tablesOf strings fits
  have written := written_tablesOf signs strings
  have root_le := positionAt_add_le (Trie.nil_mem_words (signs.map Sign.word))
  refine Tables.check_eq ?_ ?_ ?_ reached ?_ ?_
  · rw [size_tablesOf_cells]
    omega
  · rw [size_tablesOf_cells]
    exact written.size
  · intro cell member
    obtain ⟨index, inside, rfl⟩ := List.getElem_of_mem member
    have bound := target_le strings fits index
    rw [Array.length_toList] at inside
    rw [size_tablesOf_cells]
    rwa [Tables.cell, Array.getD_eq_getD_getElem?, Array.getElem?_eq_getElem inside,
      Option.getD_some] at bound
  · intro state member
    rw [known.order, ← List.map_drop] at member
    obtain ⟨word, later, rfl⟩ := List.mem_map.mp member
    refine checkFailure_word fits known all (known.listed word (List.mem_of_mem_drop later)) ?_
    -- Only the empty word comes first.
    rintro rfl
    cases words with
    | nil => cases head
    | cons first rest =>
        obtain rfl := Option.some.inj head
        exact (List.nodup_cons.mp distinct).1 later
  · intro head member
    obtain ⟨index, inside, same⟩ := List.getElem_of_mem member
    refine written.inside index head ?_
    rw [Array.length_toList] at inside
    rw [Array.getElem?_eq_getElem inside]
    exact congrArg some same

end

theorem linkedBack_tablesOf (signs : List Sign) (strings : Nat) :
    Tables.LinkedBack 0 (tablesOf signs strings).candidates.toList := by
  intro place candidate found next isNext
  rw [Array.getElem?_toList] at found
  have bound := ((written_tablesOf signs strings).sound place candidate found).2 next isNext
  omega

theorem ofTables_eq_ok {tables : Tables} (passed : tables.check = .ok ()) :
    ofTables tables = .ok ⟨tables, passed⟩ := by
  rw [ofTables]
  split
  · rfl
  · rename_i fault failed
    rw [passed] at failed
    cases failed

theorem ofTables_eq_error {tables : Tables} {fault : Tables.Fault}
    (failed : tables.check = .error fault) : ofTables tables = .error fault := by
  rw [ofTables]
  split
  · rename_i passed
    rw [failed] at passed
    cases passed
  · rename_i other failed'
    rw [failed] at failed'
    cases failed'
    rfl

theorem toTables_of_ofTables {tables : Tables} {automaton : Automaton}
    (built : ofTables tables = .ok automaton) : automaton.toTables = tables := by
  rw [ofTables] at built
  split at built
  · cases built
    rfl
  · cases built

/-- Tables for signs of existing strings are safe to follow. -/
theorem ofSigns_ok (fits : tableSize (placedOf signs) ≤ tableLimit)
    (known : ∀ sign ∈ signs, sign.string < strings) :
    ∃ automaton, ofSigns signs strings = .ok automaton := by
  have passed : (tablesOf signs strings).check = .ok () := by
    rw [check_tablesOf fits]
    refine Tables.checkCandidates_eq_ok _ _ _ (linkedBack_tablesOf signs strings) ?_
    intro candidate member
    obtain ⟨index, found⟩ := List.getElem?_of_mem member
    rw [Array.getElem?_toList] at found
    obtain ⟨sign, isSign, _, same⟩ :=
      ((written_tablesOf signs strings).sound index candidate found).1
    rw [same]
    exact known sign isSign
  refine ⟨⟨tablesOf signs strings, passed⟩, ?_⟩
  simp only [ofSigns, size_tablesOf_cells, if_neg (Nat.not_lt.mpr fits), ofTables_eq_ok passed]

/-- A sign of a string that does not exist spoils the tables. -/
theorem ofSigns_error (fits : tableSize (placedOf signs) ≤ tableLimit) {sign : Sign}
    (member : sign ∈ signs) (unknown : strings ≤ sign.string) :
    ∃ culprit, ofSigns signs strings = .error (.tables (.unknownString culprit)) := by
  obtain ⟨culprit, failed⟩ := Tables.checkCandidates_eq_error strings 0
    (tablesOf signs strings).candidates.toList (linkedBack_tablesOf signs strings) (by
      obtain ⟨children, placed, _⟩ := exists_placed (word_mem_wordsOf member)
      have listed := (written_tablesOf signs strings).enumerates _ placed
      obtain ⟨candidate, found, _, same⟩ :=
        listed.exists_candidate (mem_ending.mpr ⟨member, List.suffix_rfl⟩)
      exact ⟨candidate, found.val, by rw [same]; exact unknown⟩)
  rw [← check_tablesOf fits] at failed
  refine ⟨culprit, ?_⟩
  simp only [ofSigns, size_tablesOf_cells, if_neg (Nat.not_lt.mpr fits), ofTables_eq_error failed]

/-- An automaton that is built has the tables for its signs, and these are not too large. -/
theorem of_ofSigns {automaton : Automaton} (built : ofSigns signs strings = .ok automaton) :
    tableSize (placedOf signs) ≤ tableLimit ∧ automaton.toTables = tablesOf signs strings := by
  simp only [ofSigns, size_tablesOf_cells] at built
  split at built
  · cases built
  · rename_i small
    refine ⟨Nat.le_of_not_lt small, ?_⟩
    split at built
    · rename_i result
      cases built
      exact toTables_of_ofTables result
    · cases built

theorem exists_blank : ∃ automaton : Automaton, automaton.strings = 0 ∧
    automaton.cells.size < UInt16.size ∧ automaton.candidates.size < UInt16.size := by
  have cells := size_cells_le [] 0
  have candidates := size_candidates_le [] 0
  have small : tableSize (placedOf []) ≤ tableLimit := by
    rw [← size_tablesOf_cells [] 0]
    exact cells.trans (by decide)
  obtain ⟨automaton, built⟩ : ∃ automaton, ofSigns [] 0 = .ok automaton := ofSigns_ok small nofun
  have tables := (of_ofSigns built).2
  rw [← tables] at cells candidates
  refine ⟨automaton, congrArg Tables.strings tables, ?_, ?_⟩
  · exact Nat.lt_of_le_of_lt cells (by decide)
  · exact Nat.lt_of_le_of_lt candidates (by decide)

theorem sign_of_candidate {automaton : Automaton} (built : ofSigns signs strings = .ok automaton)
    {candidate : Candidate} (listed : candidate ∈ automaton.candidates) :
    ∃ sign ∈ signs, candidate.backtrack = sign.backtrack ∧ candidate.string = sign.string := by
  obtain ⟨index, found⟩ := Array.getElem?_of_mem listed
  rw [(of_ofSigns built).2] at found
  exact ((written_tablesOf signs strings).sound index candidate found).1

end Automaton

end ByteScan
