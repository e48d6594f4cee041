import ByteScan.Proofs.RuleSet.Backtrack
import ByteScan.Proofs.Scan.Recording
import ByteScan.Scan.BlockScan

/-!
# Walking over a block

The visits of a block are those for the candidates at one position after another. Of a string with
candidates at one distance they never go back, so `scanBlock_ends` can say what is recorded at the
end from what each visit adds.
-/

namespace ByteScan

def RuleSet.CandidatesKnown (rules : RuleSet) : Prop :=
  ∀ candidate ∈ rules.automaton.candidates, candidate.string < rules.strings.size

theorem Automaton.mem_of_mem_list {automaton : Automaton} {candidate : Candidate} {left : Nat}
    {head : Option Nat} (listed : candidate ∈ automaton.list left head) :
    candidate ∈ automaton.candidates := by
  induction left generalizing head with
  | zero => cases listed
  | succ left ih =>
      cases head with
      | none => cases listed
      | some index =>
          rw [list] at listed
          split at listed
          · rename_i first found
            rcases List.mem_cons.mp listed with same | inRest
            · rw [same]
              exact Array.mem_of_getElem? found
            · exact ih inRest
          · cases listed

theorem Automaton.mem_of_mem_candidatesAt {automaton : Automaton} {candidate : Candidate}
    {state : Nat} (listed : candidate ∈ automaton.candidatesAt state) :
    candidate ∈ automaton.candidates :=
  mem_of_mem_list listed

namespace Scan

def visitsAt (position : Nat) : List Candidate → List Visit
  | [] => []
  | candidate :: candidates =>
    if candidate.backtrack.toNat ≤ position then
      ⟨candidate.string, position - candidate.backtrack.toNat⟩ :: visitsAt position candidates
    else visitsAt position candidates

def stateAt (rules : RuleSet) (block : Block) (position : Nat) : Nat :=
  (block.data.data.toList.take position).foldl rules.automaton.step Automaton.root

def visitsBefore (rules : RuleSet) (block : Block) : Nat → List Visit
  | 0 => []
  | position + 1 => visitsBefore rules block position ++
      visitsAt position (rules.automaton.candidatesAt (stateAt rules block position))

variable {rules : RuleSet} {block : Block}

theorem mem_visitsAt {position : Nat} {candidates : List Candidate} {visit : Visit} :
    visit ∈ visitsAt position candidates ↔
      ∃ candidate ∈ candidates, candidate.backtrack.toNat ≤ position ∧
        visit = ⟨candidate.string, position - candidate.backtrack.toNat⟩ := by
  induction candidates with
  | nil => simp only [visitsAt, List.not_mem_nil, false_and, exists_false]
  | cons candidate candidates ih =>
      rw [visitsAt]
      simp only [List.mem_cons, or_and_right, exists_or, exists_eq_left]
      split
      · rename_i within
        simp only [List.mem_cons, ih, within, true_and]
      · rename_i outside
        simp only [ih, outside, false_and, false_or]

theorem mem_visitsBefore {count : Nat} {visit : Visit} :
    visit ∈ visitsBefore rules block count ↔ ∃ position < count,
      visit ∈ visitsAt position (rules.automaton.candidatesAt (stateAt rules block position)) := by
  induction count with
  | zero => simp only [visitsBefore, List.not_mem_nil, Nat.not_lt_zero, false_and, exists_false]
  | succ count ih =>
      rw [visitsBefore, List.mem_append, ih]
      constructor
      · rintro (⟨position, before, listed⟩ | listed)
        · exact ⟨position, Nat.lt_succ_of_lt before, listed⟩
        · exact ⟨count, Nat.lt_succ_self count, listed⟩
      · rintro ⟨position, before, listed⟩
        rcases Nat.lt_succ_iff_lt_or_eq.mp before with earlier | same
        · exact Or.inl ⟨position, earlier, listed⟩
        · exact Or.inr (same ▸ listed)

/-! ## The order of visits -/

theorem offset_le_of_position_le (known : rules.CandidatesKnown) {earlier later state after : Nat}
    {first second : Visit} (before : earlier ≤ later)
    (inFirst : first ∈ visitsAt earlier (rules.automaton.candidatesAt state))
    (inSecond : second ∈ visitsAt later (rules.automaton.candidatesAt after))
    (same : first.string = second.string)
    (single : rules.hasMixedBacktrack first.string = false) : first.offset ≤ second.offset := by
  obtain ⟨left, inLeft, _, rfl⟩ := mem_visitsAt.mp inFirst
  obtain ⟨right, inRight, _, rfl⟩ := mem_visitsAt.mp inSecond
  have leftListed := Automaton.mem_of_mem_candidatesAt inLeft
  have rightListed := Automaton.mem_of_mem_candidatesAt inRight
  have distance := RuleSet.backtrack_eq (known left leftListed) single leftListed rightListed rfl
    same.symm
  simp only [distance]
  omega

theorem visitsBefore_inOrder (known : rules.CandidatesKnown) (count : Nat) :
    InOrder rules (visitsBefore rules block count) := by
  induction count with
  | zero => exact List.Pairwise.nil
  | succ count ih =>
      refine List.pairwise_append.mpr ⟨ih, ?_, ?_⟩
      · refine List.pairwise_of_forall_mem_list ?_
        intro first inFirst second inSecond
        exact offset_le_of_position_le known (Nat.le_refl count) inFirst inSecond
      · intro first inFirst second inSecond
        obtain ⟨position, before, listed⟩ := mem_visitsBefore.mp inFirst
        exact offset_le_of_position_le known (Nat.le_of_lt before) listed inSecond

/-! ## The walk -/

section

variable {earlier : Context} (unseen : Unseen block.base earlier)
  (thorough : earlier.flags.fastMode = false) (known : rules.CandidatesKnown)
include unseen thorough known

theorem confirmAll_ends {position : Nat} {candidates : List Candidate}
    (listed : ∀ candidate ∈ candidates, candidate ∈ rules.automaton.candidates)
    {visits : List Visit} {context : Context}
    (recorded : Recorded rules block earlier visits context)
    (ordered : InOrder rules (visits ++ visitsAt position candidates)) {later : List Visit}
    (before : visits ++ visitsAt position candidates <+: later) :
    Ends (earlier.timeout = 0 ∧ HasRoomForFound rules block later earlier)
      (fun _ => Recorded rules block earlier (visits ++ visitsAt position candidates))
      (confirmAll rules block position candidates context) := by
  induction candidates generalizing visits context with
  | nil =>
      rw [visitsAt, List.append_nil]
      exact Ends.pure recorded
  | cons candidate candidates ih =>
      obtain ⟨isListed, restListed⟩ := List.forall_mem_cons.mp listed
      rw [confirmAll]
      rw [visitsAt] at ordered before ⊢
      by_cases within : candidate.backtrack.toNat ≤ position
      · simp only [if_pos within] at ordered before ⊢
        rw [List.append_cons] at ordered before ⊢
        obtain ⟨definition, found⟩ : ∃ definition, rules.strings[candidate.string]? = some definition :=
          ⟨_, Array.getElem?_eq_getElem (known candidate isListed)⟩
        have one := (recorded.verify unseen found (List.pairwise_append.mp ordered).1 thorough
          ((List.prefix_append _ _).trans before)).spare
          (fun both : earlier.timeout = 0 ∧ HasRoomForFound rules block later earlier => both.2)
        refine one.bind ?_
        intro _ middle recorded'
        refine (ih restListed recorded' ordered before).bind ?_
        intro count after recorded''
        exact Ends.pure recorded''
      · simp only [if_neg within] at ordered before ⊢
        exact ih restListed recorded ordered before

omit unseen thorough known in
theorem checkDeadline_ends {visits : List Visit} {context : Context} {room : Prop}
    (recorded : Recorded rules block earlier visits context) :
    Ends (earlier.timeout = 0 ∧ room)
      (fun _ => Recorded rules block earlier visits) (Context.checkDeadline context) := by
  rw [Context.checkDeadline]
  split
  · exact recorded
  · rename_i limited
    simp only
    split
    · exact fun spared => limited (recorded.timeout.trans spared.1)
    · exact { recorded with }

omit unseen thorough known in
theorem stateAt_succ {position : Nat} (within : position < block.data.size) :
    stateAt rules block (position + 1) =
      rules.automaton.step (stateAt rules block position) (byteAt block.data position) := by
  have bound : position < block.data.data.toList.length := within
  rw [stateAt, List.take_succ_eq_append_getElem bound, List.foldl_append, byteAt, dif_pos within]
  rfl

omit unseen thorough known in
theorem visitsBefore_mono {first second : Nat} (before : first ≤ second) :
    visitsBefore rules block first <+: visitsBefore rules block second := by
  induction second with
  | zero =>
      rw [Nat.le_zero.mp before]
  | succ second ih =>
      rcases Nat.le_succ_iff.mp before with earlier | same
      · exact (ih earlier).trans (List.prefix_append _ _)
      · rw [same]

theorem confirmState_ends {position : Nat} (within : position ≤ block.data.size)
    {context : Context}
    (recorded : Recorded rules block earlier (visitsBefore rules block position) context) :
    Ends (earlier.timeout = 0 ∧
        HasRoomForFound rules block (visitsBefore rules block (block.data.size + 1)) earlier)
      (fun _ => Recorded rules block earlier (visitsBefore rules block (position + 1)))
      (confirmState rules block position (stateAt rules block position) context) :=
  confirmAll_ends unseen thorough known (fun _ => Automaton.mem_of_mem_candidatesAt) recorded
    (visitsBefore_inOrder known (position + 1)) (visitsBefore_mono (Nat.succ_le_succ within))

theorem walk_ends {left position : Nat} (whole : position + left = block.data.size) (count : Nat)
    {context : Context}
    (recorded : Recorded rules block earlier (visitsBefore rules block position) context) :
    Ends (earlier.timeout = 0 ∧
        HasRoomForFound rules block (visitsBefore rules block (block.data.size + 1)) earlier)
      (fun _ => Recorded rules block earlier (visitsBefore rules block (block.data.size + 1)))
      (walk rules block left position (stateAt rules block position) count context) := by
  induction left generalizing position count context with
  | zero =>
      rw [Nat.add_zero] at whole
      subst whole
      rw [walk]
      refine (confirmState_ends unseen thorough known (Nat.le_refl _) recorded).bind ?_
      intro more after recorded'
      exact Ends.pure recorded'
  | succ left ih =>
      rw [walk]
      have next {context : Context}
          (recorded : Recorded rules block earlier (visitsBefore rules block position) context) :
          Ends (earlier.timeout = 0 ∧
              HasRoomForFound rules block (visitsBefore rules block (block.data.size + 1)) earlier)
            (fun _ => Recorded rules block earlier (visitsBefore rules block (block.data.size + 1)))
            ((confirmState rules block position (stateAt rules block position) >>= fun more =>
              walk rules block left (position + 1) (stateAt rules block (position + 1))
                (count + more)) context) := by
        refine (confirmState_ends unseen thorough known (by omega) recorded).bind ?_
        intro more after recorded'
        exact ih (by omega) (count + more) recorded'
      simp only [← stateAt_succ (show position < block.data.size by omega)]
      split
      · refine Ends.bind (checkDeadline_ends recorded) ?_
        exact fun _ _ => next
      · exact next recorded

/-- After a block has been scanned, what the visits at all positions find has been recorded. -/
theorem scanBlock_ends (sizes : earlier.lists.size = rules.strings.size) :
    Ends (earlier.timeout = 0 ∧
        HasRoomForFound rules block (visitsBefore rules block (block.data.size + 1)) earlier)
      (fun _ => Recorded rules block earlier (visitsBefore rules block (block.data.size + 1)))
      (scanBlock rules block earlier) :=
  walk_ends unseen thorough known (Nat.zero_add _) 0 (recorded_start sizes)

end

end Scan

end ByteScan
