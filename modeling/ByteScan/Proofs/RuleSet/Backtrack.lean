import ByteScan.RuleSet.Basic
import Mathlib.Data.List.Basic

/-!
# Distances of candidates

A rule set knows of each of its strings whether the candidates for it lie at different distances
from its start. `mixedBacktracks_eq_false` says what it means that they do not.
-/

namespace ByteScan

def distancesOf (candidates : List Candidate) (string : Nat) : List UInt16 :=
  (candidates.filter fun candidate => candidate.string = string).map Candidate.backtrack

theorem mem_distancesOf {candidates : List Candidate} {candidate : Candidate}
    (member : candidate ∈ candidates) :
    candidate.backtrack ∈ distancesOf candidates candidate.string :=
  List.mem_map_of_mem (List.mem_filter.mpr ⟨member, decide_eq_true rfl⟩)

theorem distancesOf_other {seen : List Candidate} {candidate : Candidate} {string : Nat}
    (other : candidate.string ≠ string) :
    distancesOf (seen ++ [candidate]) string = distancesOf seen string := by
  rw [distancesOf, List.filter_append, List.filter_cons_of_neg (by rwa [decide_eq_true_eq]),
    List.filter_nil, List.append_nil]
  rfl

theorem distancesOf_same (seen : List Candidate) (candidate : Candidate) :
    distancesOf (seen ++ [candidate]) candidate.string =
      distancesOf seen candidate.string ++ [candidate.backtrack] := by
  rw [distancesOf, List.filter_append, List.map_append]
  simp only [List.filter_cons, decide_true, if_true, List.filter_nil]
  rfl

def Differ (distances : List UInt16) : Prop :=
  ∃ first rest, distances = first :: rest ∧ ∃ other ∈ rest, other ≠ first

theorem not_differ_singleton (distance : UInt16) : ¬Differ [distance] := by
  rintro ⟨first, rest, same, other, member, _⟩
  cases same
  cases member

theorem differ_concat (first added : UInt16) (rest : List UInt16) :
    Differ (first :: rest ++ [added]) ↔ Differ (first :: rest) ∨ added ≠ first := by
  constructor
  · rintro ⟨_, _, same, other, member, different⟩
    cases same
    rcases List.mem_append.mp member with inRest | isAdded
    · exact Or.inl ⟨first, rest, rfl, other, inRest, different⟩
    · rw [List.mem_singleton] at isAdded
      exact Or.inr (isAdded ▸ different)
  · rintro (⟨_, _, same, other, member, different⟩ | different)
    · cases same
      exact ⟨first, rest ++ [added], rfl, other, List.mem_append_left _ member, different⟩
    · exact ⟨first, rest ++ [added], rfl, added, List.mem_concat_self, different⟩

namespace BacktrackSurvey

/-- What a survey knows after some candidates. -/
structure Knows (survey : BacktrackSurvey) (strings : Nat) (seen : List Candidate) : Prop where
  first : ∀ string, survey.first[string]? =
    if string < strings then some (distancesOf seen string).head? else none
  size_mixed : survey.mixed.size = strings
  mixed : ∀ string < strings,
    (survey.mixed.getD string false = true ↔ Differ (distancesOf seen string))

theorem knows_start (strings : Nat) :
    Knows ⟨Array.replicate strings none, Array.replicate strings false⟩ strings [] := by
  constructor
  case first =>
    intro string
    rw [Array.getElem?_replicate]
    rfl
  case size_mixed => exact Array.size_replicate
  case mixed =>
    intro string known
    rw [Array.getD_eq_getD_getElem?, Array.getElem?_replicate, if_pos known]
    constructor
    · intro impossible
      cases impossible
    · rintro ⟨first, rest, impossible, _⟩
      cases impossible

variable {survey : BacktrackSurvey} {strings : Nat} {seen : List Candidate}

theorem Knows.head_eq (knows : survey.Knows strings seen) {string : Nat}
    {distance : Option UInt16} (listed : survey.first[string]? = some distance) :
    string < strings ∧ (distancesOf seen string).head? = distance := by
  rw [knows.first] at listed
  split at listed
  · rename_i known
    exact ⟨known, Option.some.inj listed⟩
  · cases listed

theorem Knows.add_unknown (knows : survey.Knows strings seen) {candidate : Candidate}
    (absent : survey.first[candidate.string]? = none) :
    survey.Knows strings (seen ++ [candidate]) := by
  have other {string : Nat} (known : string < strings) : candidate.string ≠ string := by
    intro same
    rw [same, knows.first, if_pos known] at absent
    cases absent
  refine ⟨?_, knows.size_mixed, ?_⟩
  · intro string
    rw [knows.first]
    by_cases known : string < strings
    · rw [if_pos known, if_pos known, distancesOf_other (other known)]
    · rw [if_neg known, if_neg known]
  · intro string known
    rw [distancesOf_other (other known)]
    exact knows.mixed string known

theorem Knows.add_first (knows : survey.Knows strings seen) {candidate : Candidate}
    (isFirst : survey.first[candidate.string]? = some none) :
    Knows { survey with
      first := survey.first.setIfInBounds candidate.string (some candidate.backtrack) }
      strings (seen ++ [candidate]) := by
  obtain ⟨known, noHead⟩ := knows.head_eq isFirst
  have before : distancesOf seen candidate.string = [] := List.head?_eq_none_iff.mp noHead
  refine ⟨?_, knows.size_mixed, ?_⟩
  · intro string
    by_cases same : candidate.string = string
    · subst same
      have within : candidate.string < survey.first.size :=
        (Array.getElem?_eq_some_iff.mp isFirst).1
      rw [Array.getElem?_setIfInBounds_self_of_lt within, if_pos known, distancesOf_same, before]
      rfl
    · rw [Array.getElem?_setIfInBounds_ne same, knows.first, distancesOf_other same]
  · intro string inStrings
    rw [knows.mixed string inStrings]
    by_cases same : candidate.string = string
    · subst same
      rw [distancesOf_same, before]
      constructor
      · rintro ⟨first, rest, impossible, _⟩
        cases impossible
      · exact fun differ => absurd differ (not_differ_singleton _)
    · rw [distancesOf_other same]

theorem Knows.add_later (knows : survey.Knows strings seen) {candidate : Candidate}
    {backtrack : UInt16} (isLater : survey.first[candidate.string]? = some (some backtrack)) :
    Knows (if backtrack = candidate.backtrack then survey
      else { survey with mixed := survey.mixed.setIfInBounds candidate.string true })
      strings (seen ++ [candidate]) := by
  obtain ⟨known, isHead⟩ := knows.head_eq isLater
  obtain ⟨rest, before⟩ := List.head?_eq_some_iff.mp isHead
  have first (string : Nat) : survey.first[string]? =
      if string < strings then some (distancesOf (seen ++ [candidate]) string).head? else none := by
    rw [knows.first]
    by_cases same : candidate.string = string
    · subst same
      rw [distancesOf_same, before]
      rfl
    · rw [distancesOf_other same]
  split
  · rename_i isSame
    refine ⟨first, knows.size_mixed, ?_⟩
    intro string inStrings
    rw [knows.mixed string inStrings]
    by_cases same : candidate.string = string
    · subst same
      rw [distancesOf_same, before, differ_concat, isSame]
      simp only [ne_eq, not_true_eq_false, or_false]
    · rw [distancesOf_other same]
  · rename_i different
    refine ⟨first, ?_, ?_⟩
    · rw [Array.size_setIfInBounds, knows.size_mixed]
    · intro string inStrings
      rw [Array.getD_eq_getD_getElem?]
      by_cases same : candidate.string = string
      · subst same
        have within : candidate.string < survey.mixed.size := knows.size_mixed.symm ▸ inStrings
        rw [Array.getElem?_setIfInBounds_self_of_lt within, distancesOf_same, before,
          differ_concat]
        exact ⟨fun _ => Or.inr (Ne.symm different), fun _ => rfl⟩
      · rw [Array.getElem?_setIfInBounds_ne same, ← Array.getD_eq_getD_getElem?,
          distancesOf_other same]
        exact knows.mixed string inStrings

theorem Knows.step (knows : survey.Knows strings seen) (candidate : Candidate) :
    (survey.add candidate).Knows strings (seen ++ [candidate]) := by
  rw [add]
  split
  · rename_i absent
    exact knows.add_unknown absent
  · rename_i isFirst
    exact knows.add_first isFirst
  · rename_i backtrack isLater
    exact knows.add_later isLater

theorem Knows.run (knows : survey.Knows strings seen) (candidates : List Candidate) :
    (candidates.foldl add survey).Knows strings (seen ++ candidates) := by
  induction candidates generalizing survey seen with
  | nil => rwa [List.append_nil]
  | cons candidate candidates ih =>
      have next := ih (knows.step candidate)
      rwa [List.append_assoc] at next

end BacktrackSurvey

/-- The survey of an automaton says of a string that its distances differ where two of them do. -/
theorem mixedBacktracks_eq_true (automaton : Automaton) {strings string : Nat}
    (known : string < strings) :
    (mixedBacktracks automaton strings).getD string false = true ↔
      Differ (distancesOf automaton.candidates.toList string) := by
  have knows := (BacktrackSurvey.knows_start strings).run automaton.candidates.toList
  rw [mixedBacktracks, ← Array.foldl_toList]
  exact knows.mixed string known

/-- All candidates of a string lie at one distance where the rule set does not say otherwise. -/
theorem RuleSet.backtrack_eq {rules : RuleSet} {string : Nat} (known : string < rules.strings.size)
    (same : rules.hasMixedBacktrack string = false) {first second : Candidate}
    (inFirst : first ∈ rules.automaton.candidates) (inSecond : second ∈ rules.automaton.candidates)
    (ofFirst : first.string = string) (ofSecond : second.string = string) :
    first.backtrack = second.backtrack := by
  rw [hasMixedBacktrack, rules.mixed_eq] at same
  have alike : ¬Differ (distancesOf rules.automaton.candidates.toList string) := by
    rw [← mixedBacktracks_eq_true rules.automaton known, same]
    exact Bool.false_ne_true
  have firstListed := mem_distancesOf inFirst.val
  have secondListed := mem_distancesOf inSecond.val
  rw [ofFirst] at firstListed
  rw [ofSecond] at secondListed
  cases whole : distancesOf rules.automaton.candidates.toList string with
  | nil =>
      rw [whole] at firstListed
      cases firstListed
  | cons head rest =>
      rw [whole] at alike firstListed secondListed
      have isHead {distance : UInt16} (member : distance ∈ head :: rest) : distance = head := by
        rcases List.mem_cons.mp member with same | inRest
        · exact same
        · by_contra different
          exact alike ⟨head, rest, rfl, distance, inRest, different⟩
      rw [isHead firstListed, isHead secondListed]

end ByteScan
