import ByteScan.Proofs.Automaton.Checked
import ByteScan.Proofs.Success

/-!
# Tables that pass the check

`Tables.Passed` says what tables are like that pass `Tables.check`, wherever they come from.
-/

namespace ByteScan.Tables

theorem below_of_checkCells {last index : Nat} {cells : List Cell}
    (passed : checkCells last index cells = .ok ()) : ∀ cell ∈ cells, cell.target ≤ last := by
  induction cells generalizing index with
  | nil =>
      intro cell member
      cases member
  | cons first rest ih =>
      rw [checkCells] at passed
      split at passed
      · cases passed
      · rename_i inside
        exact List.forall_mem_cons.mpr ⟨Nat.not_lt.mp inside, ih passed⟩

theorem below_of_checkHeads {count : Nat} {heads : List (Option Nat)}
    (passed : checkHeads count heads = .ok ()) : ∀ head, some head ∈ heads → head < count := by
  induction heads with
  | nil =>
      intro head member
      cases member
  | cons first rest ih =>
      cases first with
      | none =>
          intro head member
          rcases List.mem_cons.mp member with impossible | later
          · cases impossible
          · exact ih passed head later
      | some index =>
          rw [checkHeads] at passed
          split at passed
          · cases passed
          · rename_i inside
            intro head member
            rcases List.mem_cons.mp member with same | later
            · cases same
              exact Nat.not_le.mp inside
            · exact ih passed head later

theorem known_of_checkCandidates {strings index : Nat} {candidates : List Candidate}
    (passed : checkCandidates strings index candidates = .ok ()) :
    (∀ candidate ∈ candidates, candidate.string < strings) ∧ LinkedBack index candidates := by
  induction candidates generalizing index with
  | nil =>
      constructor
      · intro candidate member
        cases member
      · intro place candidate found
        cases found
  | cons first rest ih =>
      rw [checkCandidates] at passed
      split at passed
      · cases passed
      · rename_i known
        have later : checkCandidates strings (index + 1) rest = .ok () ∧
            ∀ next, first.next = some next → next < index := by
          cases goesOn : first.next with
          | none =>
              rw [goesOn] at passed
              refine ⟨passed, ?_⟩
              intro _ impossible
              cases impossible
          | some next =>
              rw [goesOn] at passed
              dsimp only at passed
              split at passed
              · cases passed
              · rename_i back
                refine ⟨passed, ?_⟩
                rintro _ ⟨⟩
                exact Nat.not_le.mp back
        obtain ⟨others, linked⟩ := ih later.1
        refine ⟨List.forall_mem_cons.mpr ⟨Nat.not_le.mp known, others⟩, ?_⟩
        intro place candidate found next isNext
        cases place with
        | zero =>
            cases found
            exact later.2 next isNext
        | succ place =>
            have bound := linked place candidate found next isNext
            omega

theorem each_of_forM {check : Nat → Except Fault Unit} {states : List Nat}
    (passed : states.forM check = .ok ()) : ∀ state ∈ states, check state = .ok () := by
  induction states with
  | nil =>
      intro state member
      cases member
  | cons first rest ih =>
      have opened : (first :: rest).forM check = check first >>= fun _ => rest.forM check := rfl
      rw [opened] at passed
      obtain ⟨_, isFirst, others⟩ := bind_eq_ok passed
      exact List.forall_mem_cons.mpr ⟨isFirst, ih others⟩

theorem checkFailure_ok_iff {tables : Tables} {found : Survey} {state : Nat} :
    tables.checkFailure found state = .ok () ↔
      ∃ less depth, found.depths[tables.failureOf state]? = some (some less) ∧
        found.depths[state]? = some (some depth) ∧ less < depth := by
  rw [checkFailure]
  rcases found.depths[tables.failureOf state]? with _ | _ | less <;>
    rcases found.depths[state]? with _ | _ | depth <;> simp

/-- What tables are like that pass the check with some survey of their states. -/
structure Passed (tables : Tables) (found : Survey) : Prop where
  long : stateSpan ≤ tables.cells.size
  sizes : tables.heads.size = tables.cells.size
  targets : ∀ cell ∈ tables.cells.toList, cell.target ≤ tables.cells.size - stateSpan
  reached : tables.reach = .ok found
  failures : ∀ state ∈ found.order.toList.drop 1, tables.checkFailure found state = .ok ()
  heads : ∀ head, some head ∈ tables.heads.toList → head < tables.candidates.size
  strings : ∀ candidate ∈ tables.candidates.toList, candidate.string < tables.strings
  back : LinkedBack 0 tables.candidates.toList

theorem exists_passed {tables : Tables} (passed : tables.check = .ok ()) :
    ∃ found, tables.Passed found := by
  unfold check at passed
  by_cases long : tables.cells.size < stateSpan
  · rw [if_pos long] at passed
    cases passed
  · rw [if_neg long] at passed
    by_cases sizes : tables.heads.size ≠ tables.cells.size
    · rw [if_pos sizes] at passed
      cases passed
    · rw [if_neg sizes] at passed
      obtain ⟨_, targets, passed⟩ := bind_eq_ok passed
      obtain ⟨found, reached, passed⟩ := bind_eq_ok passed
      obtain ⟨_, failures, passed⟩ := bind_eq_ok passed
      obtain ⟨_, heads, candidates⟩ := bind_eq_ok passed
      obtain ⟨strings, back⟩ := known_of_checkCandidates candidates
      exact ⟨found, Nat.not_lt.mp long, Decidable.not_not.mp sizes, below_of_checkCells targets,
        reached, each_of_forM failures, below_of_checkHeads heads, strings, back⟩

end ByteScan.Tables
