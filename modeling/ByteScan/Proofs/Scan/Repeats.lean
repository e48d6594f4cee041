import ByteScan.Proofs.RuleSet.Backtrack
import ByteScan.Proofs.Scan.Exactness
import ByteScan.Proofs.Scan.Keeping

/-!
# Places that are found again

A place where a string was found is not recorded again. A scan may know it from a set of places, or
only from the last match. `scanBlocks_distinct` compares scanning with a scan that keeps the set for
all strings: where no two blocks have the same base, both record the same. Where a base comes again,
the last match is not enough.
-/

namespace ByteScan

def Match.spot (found : Match) : UInt64 × Nat := (found.base, found.offset)

namespace Scan

/-! ## What the set of places holds -/

/-- No string that `remembers` holds of has two matches at one place. -/
def Distinct (remembers : Nat → Bool) (context : Context) : Prop :=
  ∀ string, remembers string = true → ((context.matchesOf string).map Match.spot).Nodup

/-- The set holds the places of the matches of the strings that it is kept for. -/
structure Kept (rules : RuleSet) (remembers : Nat → Bool) (context : Context) : Prop where
  sized : context.lists.size = rules.strings.size
  thorough : context.flags.fastMode = false
  remembered : ∀ string, remembers string = true → ∀ base offset,
    (string, base, offset) ∈ context.recorded ↔
      (base, offset) ∈ (context.matchesOf string).map Match.spot
  distinct : Distinct remembers context

variable {rules : RuleSet} {remembers : Nat → Bool} {block : Block} {context : Context}

theorem lists_rememberBy (string offset : Nat) :
    (rememberBy remembers string block offset context).lists = context.lists := by
  unfold rememberBy
  split <;> rfl

theorem matchesOf_rememberBy (string offset : Nat) :
    (rememberBy remembers string block offset context).matchesOf = context.matchesOf := by
  funext other
  simp only [Context.matchesOf, lists_rememberBy]

theorem flags_rememberBy (string offset : Nat) :
    (rememberBy remembers string block offset context).flags = context.flags := by
  unfold rememberBy
  split <;> rfl

theorem mem_recorded_rememberBy {string offset other place : Nat} {base : UInt64}
    (kept : remembers other = true) :
    (other, base, place) ∈ (rememberBy remembers string block offset context).recorded ↔
      (other, base, place) ∈ context.recorded ∨
        other = string ∧ (base, place) = (block.base, offset) := by
  unfold rememberBy
  split
  · simp only [Context.markRecorded, Std.HashSet.mem_insert, beq_iff_eq, Prod.mk.injEq,
      @eq_comm _ string, @eq_comm _ block.base, @eq_comm _ offset]
    exact or_comm
  · rename_i unkept
    constructor
    · exact Or.inl
    · rintro (listed | ⟨rfl, _⟩)
      · exact listed
      · exact absurd kept unkept

theorem Kept.isKnownBy_iff (kept : Kept rules remembers context) {string : Nat}
    (remembered : remembers string = true) (offset : Nat) :
    isKnownBy remembers context string block offset = true ↔
      (block.base, offset) ∈ (context.matchesOf string).map Match.spot := by
  rw [isKnownBy, if_pos remembered, Context.isRecorded, Std.HashSet.contains_iff_mem]
  exact kept.remembered string remembered block.base offset

theorem Kept.append (kept : Kept rules remembers context) {string offset length : Nat}
    (unknown : isKnownBy remembers context string block offset ≠ true) {after : Context}
    (appended : (rememberBy remembers string block offset context).Appended string
      (.ofBlock block offset length) after) : Kept rules remembers after := by
  have same : after.matchesOf string = context.matchesOf string ++ [.ofBlock block offset length] := by
    rw [appended.same, matchesOf_rememberBy]
  have others (other : Nat) (different : string ≠ other) :
      after.matchesOf other = context.matchesOf other := by
    rw [appended.other other different, matchesOf_rememberBy]
  constructor
  case sized => rw [appended.size_lists, lists_rememberBy, kept.sized]
  case thorough => rw [appended.flags, flags_rememberBy, kept.thorough]
  case remembered =>
    intro other remembered base place
    rw [appended.recorded, mem_recorded_rememberBy remembered, kept.remembered other remembered]
    by_cases isSame : string = other
    · subst isSame
      rw [same, List.map_append, List.mem_append, List.map_singleton, List.mem_singleton]
      simp only [true_and]
      rfl
    · rw [others other isSame]
      simp only [Ne.symm isSame, false_and, or_false]
  case distinct =>
    intro other remembered
    by_cases isSame : string = other
    · subst isSame
      have absent := mt (kept.isKnownBy_iff remembered offset).mpr unknown
      rw [same, List.map_append, List.map_singleton]
      refine List.nodup_append.mpr ⟨kept.distinct string remembered, List.nodup_singleton _, ?_⟩
      rintro first listed second isNew rfl
      rw [List.mem_singleton.mp isNew] at listed
      exact absent listed
    · rw [others other isSame]
      exact kept.distinct other remembered

theorem confirmBy_kept (kept : Kept rules remembers context) (string offset : Nat) :
    Outcome (fun _ => Kept rules remembers) (fun _ => Distinct remembers)
      (confirmBy remembers rules string block offset context) := by
  unfold confirmBy
  split
  · exact kept.distinct
  · rename_i definition known
    split
    · exact kept
    · rename_i unknown
      split
      · exact kept
      · rename_i length occurs
        rw [Bool.or_eq_true, not_or] at unknown
        have within : string < (rememberBy remembers string block offset context).lists.size := by
          rw [lists_rememberBy, kept.sized]
          exact (Array.getElem?_eq_some_iff.mp known).1
        refine (Context.addMatch_outcome _ _ within).imp ?_ ?_
        · intro _ after appended
          exact kept.append unknown.2 appended
        · rintro _ _ ⟨_, rfl⟩ other remembered
          rw [matchesOf_rememberBy]
          exact kept.distinct other remembered

/-- A scan that keeps the set of places for some strings keeps their matches apart. -/
theorem keeps_kept (remembers : Nat → Bool) (rules : RuleSet) :
    Keeps remembers rules (fun _ => True) (Kept rules remembers) (fun _ => Distinct remembers) where
  confirm := fun offset _ _ kept => confirmBy_kept kept _ offset
  looked := fun kept => { kept with }
  charged := fun _ _ kept => { kept with }
  chargedBad := fun _ _ distinct => distinct
  late := Kept.distinct
  entered := fun _ kept => { kept with }

theorem scanBlocksBy_kept (blocks : List Block) (kept : Kept rules remembers context) :
    Outcome (fun _ => Kept rules remembers) (fun _ => Distinct remembers)
      (scanBlocksBy remembers rules blocks context) :=
  (keeps_kept remembers rules).scanBlocksBy blocks (fun _ _ => trivial) kept

/-! ## Two scans side by side -/

def Alike (first second : Context) : Prop :=
  ∃ recorded, second = { first with recorded }

theorem Alike.matchesOf {first second : Context} (alike : Alike first second) :
    second.matchesOf = first.matchesOf := by
  obtain ⟨recorded, rfl⟩ := alike
  rfl

/-- Two scans between blocks, of which the second one keeps the set for all strings. -/
structure Beside (rules : RuleSet) (bases : List UInt64) (first second : Context) : Prop where
  alike : Alike first second
  partly : Kept rules rules.hasMixedBacktrack first
  wholly : Kept rules (fun _ => true) second
  based : ∀ string, ∀ found ∈ first.matchesOf string, found.base ∈ bases

/-- Two scans at a position of a block. Of a string with candidates at one distance, a match that
the candidates of the position can lead to is the last one. -/
structure Abreast (rules : RuleSet) (bases : List UInt64) (block : Block) (position : Nat)
    (first second : Context) : Prop extends Beside rules bases first second where
  reached : ∀ candidate ∈ rules.automaton.candidates, candidate.string < rules.strings.size →
    rules.hasMixedBacktrack candidate.string = false →
    ∀ found ∈ first.matchesOf candidate.string, found.base = block.base →
      found.offset + candidate.backtrack.toNat < position ∨
        found.offset + candidate.backtrack.toNat = position ∧
          first.lastMatch? candidate.string = some found

section

variable {bases : List UInt64} {position : Nat} {first second : Context} {candidate : Candidate}

theorem Abreast.advance (abreast : Abreast rules bases block position first second) :
    Abreast rules bases block (position + 1) first second := by
  constructor
  case toBeside => exact abreast.toBeside
  case reached =>
    intro candidate listed known single found member sameBase
    rcases abreast.reached candidate listed known single found member sameBase with
      before | ⟨here, _⟩
    · exact Or.inl (Nat.lt_succ_of_lt before)
    · exact Or.inl (by omega)

theorem last_iff_spot (abreast : Abreast rules bases block position first second)
    (listed : candidate ∈ rules.automaton.candidates)
    (known : candidate.string < rules.strings.size) (within : candidate.backtrack.toNat ≤ position)
    (single : rules.hasMixedBacktrack candidate.string = false) :
    isKnownBy rules.hasMixedBacktrack first candidate.string block
        (position - candidate.backtrack.toNat) = true ↔
      (block.base, position - candidate.backtrack.toNat) ∈
        (first.matchesOf candidate.string).map Match.spot := by
  have unkept : ¬rules.hasMixedBacktrack candidate.string = true := by
    rw [single]
    exact Bool.false_ne_true
  rw [isKnownBy, if_neg unkept]
  constructor
  · intro isLast
    split at isLast
    · rename_i last found
      rw [Bool.and_eq_true, beq_iff_eq, beq_iff_eq] at isLast
      rw [Context.lastMatch?_eq] at found
      rw [← isLast.1, ← isLast.2]
      exact List.mem_map_of_mem (List.mem_of_getLast? found)
    · cases isLast
  · intro member
    obtain ⟨found, inList, same⟩ := List.mem_map.mp member
    obtain ⟨sameBase, sameOffset⟩ := Prod.mk.inj same
    rcases abreast.reached candidate listed known single found inList sameBase with
      before | ⟨_, isLast⟩
    · omega
    · rw [isLast]
      simp only [sameBase, sameOffset, BEq.rfl, Bool.and_self]

/-- The last match tells as much as the set does. -/
theorem Abreast.isKnownBy_eq (abreast : Abreast rules bases block position first second)
    (listed : candidate ∈ rules.automaton.candidates)
    (known : candidate.string < rules.strings.size)
    (within : candidate.backtrack.toNat ≤ position) :
    isKnownBy rules.hasMixedBacktrack first candidate.string block
        (position - candidate.backtrack.toNat) =
      isKnownBy (fun _ => true) second candidate.string block
        (position - candidate.backtrack.toNat) := by
  rw [Bool.eq_iff_iff, abreast.wholly.isKnownBy_iff rfl, abreast.alike.matchesOf]
  cases isMixed : rules.hasMixedBacktrack candidate.string with
  | false => exact last_iff_spot abreast listed known within isMixed
  | true => exact abreast.partly.isKnownBy_iff isMixed _

/-- A match for a candidate of the position leaves the scans abreast. -/
theorem Abreast.append (abreast : Abreast rules bases block position first second)
    (inBases : block.base ∈ bases) (listed : candidate ∈ rules.automaton.candidates)
    (known : candidate.string < rules.strings.size) (within : candidate.backtrack.toNat ≤ position)
    (unknown : isKnownBy rules.hasMixedBacktrack first candidate.string block
      (position - candidate.backtrack.toNat) ≠ true) {length : Nat} {after after' : Context}
    (alike : Alike after after')
    (onFirst : (rememberBy rules.hasMixedBacktrack candidate.string block
      (position - candidate.backtrack.toNat) first).Appended candidate.string
      (.ofBlock block (position - candidate.backtrack.toNat) length) after)
    (onSecond : (rememberBy (fun _ => true) candidate.string block
      (position - candidate.backtrack.toNat) second).Appended candidate.string
      (.ofBlock block (position - candidate.backtrack.toNat) length) after') :
    Abreast rules bases block position after after' := by
  have unknownToBoth := unknown
  rw [abreast.isKnownBy_eq listed known within] at unknownToBoth
  have same : after.matchesOf candidate.string = first.matchesOf candidate.string ++
      [.ofBlock block (position - candidate.backtrack.toNat) length] := by
    rw [onFirst.same, matchesOf_rememberBy]
  have others (other : Nat) (different : candidate.string ≠ other) :
      after.matchesOf other = first.matchesOf other := by
    rw [onFirst.other other different, matchesOf_rememberBy]
  refine ⟨⟨alike, abreast.partly.append unknown onFirst,
    abreast.wholly.append unknownToBoth onSecond, ?based⟩, ?reached⟩
  case based =>
    intro string found member
    by_cases isSame : candidate.string = string
    · subst isSame
      rw [same] at member
      rcases List.mem_append.mp member with inList | isNew
      · exact abreast.based candidate.string found inList
      · rw [List.mem_singleton.mp isNew]
        exact inBases
    · rw [others string isSame] at member
      exact abreast.based string found member
  case reached =>
    intro other otherListed known single found member sameBase
    by_cases isSame : candidate.string = other.string
    · have distance := RuleSet.backtrack_eq known single otherListed listed rfl isSame
      rw [← isSame] at known single
      rw [← isSame, same] at member
      rw [← isSame, Context.lastMatch?_eq, same, List.getLast?_concat, distance]
      rcases List.mem_append.mp member with inList | isNew
      · rcases abreast.reached candidate listed known single found inList sameBase with
          before | ⟨here, _⟩
        · exact Or.inl before
        · refine absurd ((last_iff_spot abreast listed known within single).mpr ?_) unknown
          refine List.mem_map.mpr ⟨found, inList, ?_⟩
          rw [Match.spot, sameBase, ← here, Nat.add_sub_cancel]
      · rw [List.mem_singleton.mp isNew]
        exact Or.inr ⟨Nat.sub_add_cancel within, rfl⟩
    · rw [Context.lastMatch?_eq, others other.string isSame, ← Context.lastMatch?_eq]
      rw [others other.string isSame] at member
      exact abreast.reached other otherListed known single found member sameBase

theorem addMatch_alike (string : Nat) (found : Match) (alike : Alike first second) :
    Paired Alike Alike (Context.addMatch string found first)
      (Context.addMatch string found second) := by
  obtain ⟨recorded, rfl⟩ := alike
  have sameRoom : Context.hasRoom { first with recorded } string = first.hasRoom string := rfl
  have sameCount : Context.matchCount { first with recorded } string = first.matchCount string := rfl
  rw [Context.addMatch, Context.addMatch, sameRoom, sameCount]
  split
  · split
    · exact ⟨rfl, recorded, rfl⟩
    · exact ⟨rfl, recorded, rfl⟩
  · exact ⟨rfl, recorded, rfl⟩

theorem rememberBy_alike (remembers other : Nat → Bool) (string : Nat) (block : Block)
    (offset : Nat) (alike : Alike first second) :
    Alike (rememberBy remembers string block offset first)
      (rememberBy other string block offset second) := by
  obtain ⟨recorded, rfl⟩ := alike
  unfold rememberBy Context.markRecorded
  split <;> split <;> exact ⟨_, rfl⟩

section

variable (inBases : block.base ∈ bases) (listed : candidate ∈ rules.automaton.candidates)
  (within : candidate.backtrack.toNat ≤ position)
include inBases listed within

theorem confirmBy_abreast (abreast : Abreast rules bases block position first second) :
    Paired (Abreast rules bases block position) Alike
      (confirmBy rules.hasMixedBacktrack rules candidate.string block
        (position - candidate.backtrack.toNat) first)
      (confirmBy (fun _ => true) rules candidate.string block
        (position - candidate.backtrack.toNat) second) := by
  unfold confirmBy
  split
  · exact ⟨rfl, abreast.alike⟩
  · rename_i definition found
    have known : candidate.string < rules.strings.size := (Array.getElem?_eq_some_iff.mp found).1
    have unsettled {context : Context} (thorough : context.flags.fastMode = false) :
        isSettled context candidate.string = false := by
      rw [isSettled, thorough, Bool.false_and]
    rw [unsettled abreast.partly.thorough, unsettled abreast.wholly.thorough, Bool.false_or,
      Bool.false_or, ← abreast.isKnownBy_eq listed known within]
    split
    · exact ⟨rfl, abreast⟩
    · rename_i unknown
      split
      · exact ⟨rfl, abreast⟩
      · rename_i length occurs
        have bothAlike := rememberBy_alike rules.hasMixedBacktrack (fun _ => true)
          candidate.string block (position - candidate.backtrack.toNat) abreast.alike
        have onFirst := Context.addMatch_outcome
          (rememberBy rules.hasMixedBacktrack candidate.string block
            (position - candidate.backtrack.toNat) first)
          (.ofBlock block (position - candidate.backtrack.toNat) length)
          (by rwa [lists_rememberBy, abreast.partly.sized])
        have onSecond := Context.addMatch_outcome
          (rememberBy (fun _ => true) candidate.string block
            (position - candidate.backtrack.toNat) second)
          (.ofBlock block (position - candidate.backtrack.toNat) length)
          (by rwa [lists_rememberBy, abreast.wholly.sized])
        have paired := (addMatch_alike candidate.string _ bothAlike).both onFirst onSecond
        refine paired.imp ?_ (fun _ _ => id)
        rintro after after' ⟨alike, appended, appended'⟩
        exact abreast.append inBases listed known within unknown alike appended appended'

omit inBases listed within in
theorem Abreast.looked (abreast : Abreast rules bases block position first second) :
    Abreast rules bases block position first.looked second.looked := by
  obtain ⟨⟨⟨recorded, rfl⟩, partly, wholly, based⟩, reached⟩ := abreast
  exact ⟨⟨⟨recorded, rfl⟩, { partly with }, { wholly with }, based⟩, reached⟩

omit inBases listed within in
theorem Alike.charged (alike : Alike first second) (string : Nat) (begun : Nanoseconds) :
    Alike (first.charged string begun) (second.charged string begun) := by
  obtain ⟨recorded, rfl⟩ := alike
  exact ⟨recorded, rfl⟩

omit inBases listed within in
theorem Abreast.charged (abreast : Abreast rules bases block position first second) (string : Nat)
    (begun : Nanoseconds) :
    Abreast rules bases block position (first.charged string begun)
      (second.charged string begun) := by
  obtain ⟨⟨alike, partly, wholly, based⟩, reached⟩ := abreast
  exact ⟨⟨alike.charged string begun, { partly with }, { wholly with }, based⟩, reached⟩

theorem verifyBy_abreast (abreast : Abreast rules bases block position first second) :
    Paired (Abreast rules bases block position) Alike
      (verifyBy rules.hasMixedBacktrack rules candidate.string block
        (position - candidate.backtrack.toNat) first)
      (verifyBy (fun _ => true) rules candidate.string block
        (position - candidate.backtrack.toNat) second) := by
  have sameRest : second.flags = first.flags ∧ second.clock = first.clock := by
    obtain ⟨recorded, rfl⟩ := abreast.alike
    exact ⟨rfl, rfl⟩
  unfold verifyBy
  rw [sameRest.1, sameRest.2]
  split
  · have confirmed := confirmBy_abreast inBases listed within abreast.looked
    cases endedFirst : confirmBy rules.hasMixedBacktrack rules candidate.string block
        (position - candidate.backtrack.toNat) first.looked <;>
      cases endedSecond : confirmBy (fun _ => true) rules candidate.string block
        (position - candidate.backtrack.toNat) second.looked <;>
      rw [endedFirst, endedSecond] at confirmed
    case ok.ok => exact ⟨rfl, confirmed.2.charged candidate.string _⟩
    case ok.error => exact False.elim confirmed
    case error.ok => exact False.elim confirmed
    case error.error => exact ⟨confirmed.1, confirmed.2.charged candidate.string _⟩
  · exact confirmBy_abreast inBases listed within abreast

end

theorem confirmAllBy_abreast (inBases : block.base ∈ bases) {candidates : List Candidate}
    (listed : ∀ candidate ∈ candidates, candidate ∈ rules.automaton.candidates)
    (abreast : Abreast rules bases block position first second) :
    Paired (Abreast rules bases block position) Alike
      (confirmAllBy rules.hasMixedBacktrack rules block position candidates first)
      (confirmAllBy (fun _ => true) rules block position candidates second) := by
  induction candidates generalizing first second with
  | nil => exact ⟨rfl, abreast⟩
  | cons candidate candidates ih =>
      obtain ⟨isListed, restListed⟩ := List.forall_mem_cons.mp listed
      rw [confirmAllBy, confirmAllBy]
      split
      · rename_i within
        apply (verifyBy_abreast inBases isListed within abreast).bind
        intro _ middle middle' abreast'
        apply (ih restListed abreast').bind
        intro count after after' abreast''
        exact ⟨rfl, abreast''⟩
      · exact ih restListed abreast

theorem checkDeadline_abreast (abreast : Abreast rules bases block position first second) :
    Paired (Abreast rules bases block position) Alike (Context.checkDeadline first)
      (Context.checkDeadline second) := by
  have looked := abreast.looked
  obtain ⟨recorded, rfl⟩ := abreast.alike
  unfold Context.checkDeadline
  dsimp only
  split
  · exact ⟨rfl, abreast⟩
  · split
    · exact ⟨rfl, looked.alike⟩
    · exact ⟨rfl, looked⟩

theorem walkBy_abreast (inBases : block.base ∈ bases) (left state count : Nat)
    (abreast : Abreast rules bases block position first second) :
    Paired (Beside rules bases) Alike
      (walkBy rules.hasMixedBacktrack rules block left position state count first)
      (walkBy (fun _ => true) rules block left position state count second) := by
  induction left generalizing position state count first second with
  | zero =>
      rw [walkBy, walkBy]
      apply (confirmAllBy_abreast inBases (fun _ => Automaton.mem_of_mem_candidatesAt) abreast).bind
      intro more after after' abreast'
      exact ⟨rfl, abreast'.toBeside⟩
  | succ left ih =>
      rw [walkBy, walkBy]
      have next {first second : Context}
          (abreast : Abreast rules bases block position first second) :
          Paired (Beside rules bases) Alike
            ((confirmAllBy rules.hasMixedBacktrack rules block position
                (rules.automaton.candidatesAt state) >>= fun more =>
              walkBy rules.hasMixedBacktrack rules block left (position + 1)
                (rules.automaton.step state (byteAt block.data position)) (count + more)) first)
            ((confirmAllBy (fun _ => true) rules block position
                (rules.automaton.candidatesAt state) >>= fun more =>
              walkBy (fun _ => true) rules block left (position + 1)
                (rules.automaton.step state (byteAt block.data position)) (count + more))
              second) := by
        apply (confirmAllBy_abreast inBases (fun _ => Automaton.mem_of_mem_candidatesAt)
          abreast).bind
        intro more after after' abreast'
        exact ih _ _ abreast'.advance
      split
      · apply (checkDeadline_abreast abreast).bind
        intro _ after after' abreast'
        exact next abreast'
      · exact next abreast

theorem detectEntryPoint_alike (block : Block) (alike : Alike first second) :
    Alike (detectEntryPoint block first) (detectEntryPoint block second) := by
  obtain ⟨recorded, rfl⟩ := alike
  unfold detectEntryPoint
  dsimp only
  split
  · exact ⟨recorded, rfl⟩
  · split
    · exact ⟨recorded, rfl⟩
    · exact ⟨recorded, rfl⟩

theorem Beside.enter (beside : Beside rules bases first second) (isNew : block.base ∉ bases) :
    Abreast rules (bases ++ [block.base]) block 0 (detectEntryPoint block first)
      (detectEntryPoint block second) := by
  have alike := detectEntryPoint_alike block beside.alike
  obtain ⟨entryPoint, sameFirst⟩ := detectEntryPoint_rest block first
  obtain ⟨_, sameSecond⟩ := detectEntryPoint_rest block second
  rw [sameFirst, sameSecond] at alike ⊢
  refine ⟨⟨alike, { beside.partly with }, { beside.wholly with }, ?based⟩, ?reached⟩
  case based =>
    intro string found member
    exact List.mem_append_left _ (beside.based string found member)
  case reached =>
    intro candidate _ _ _ found member sameBase
    exact absurd (sameBase ▸ beside.based candidate.string found member) isNew

theorem scanBlocksBy_beside (blocks : List Block)
    (different : (bases ++ blocks.map Block.base).Nodup)
    (beside : Beside rules bases first second) :
    Paired Alike Alike (scanBlocksBy rules.hasMixedBacktrack rules blocks first)
      (scanBlocksBy (fun _ => true) rules blocks second) := by
  induction blocks generalizing bases first second with
  | nil => exact ⟨rfl, beside.alike⟩
  | cons block blocks ih =>
      rw [List.map_cons, List.append_cons] at different
      have isNew : block.base ∉ bases := by
        intro listed
        have apart := (List.nodup_append.mp (List.nodup_append.mp different).1).2.2
        exact apart block.base listed block.base (List.mem_singleton_self _) rfl
      have walked := walkBy_abreast List.mem_concat_self block.data.size Automaton.root 0
        (beside.enter isNew)
      have ended : Paired (Beside rules (bases ++ [block.base])) Alike
          (discard (walkBy rules.hasMixedBacktrack rules block block.data.size 0 Automaton.root 0)
            (detectEntryPoint block first))
          (discard (walkBy (fun _ => true) rules block block.data.size 0 Automaton.root 0)
            (detectEntryPoint block second)) := by
        apply walked.bind
        intro _ after after' beside'
        exact ⟨rfl, beside'⟩
      exact ended.bind fun _ after after' beside' => ih different beside'

end

/-! ## Whole scans -/

section

variable (rules) (start : Context) (lists : start.lists = Array.replicate rules.strings.size .empty)
  (forgetful : start.recorded = ∅) (thorough : start.flags.fastMode = false)
include lists

theorem matchesOf_start (string : Nat) : start.matchesOf string = [] := by
  rw [Context.matchesOf, lists, getD_replicate]
  rfl

include forgetful thorough

theorem kept_start (remembers : Nat → Bool) : Kept rules remembers start where
  sized := by rw [lists, Array.size_replicate]
  thorough := thorough
  remembered := by
    intro string _ base offset
    rw [matchesOf_start rules start lists, forgetful]
    constructor
    · intro listed
      exact absurd listed Std.HashSet.not_mem_empty
    · intro listed
      cases listed
  distinct := by
    intro string _
    rw [matchesOf_start rules start lists]
    exact List.nodup_nil

/-- Blocks with different bases are scanned as if every string had its places remembered. No place is
recorded twice then, and never one of a string with candidates at different distances. -/
theorem scanBlocks_distinct (blocks : List Block) :
    ((blocks.map Block.base).Nodup →
      Paired Alike Alike (scanBlocks rules blocks start)
        (scanBlocksBy (fun _ => true) rules blocks start)) ∧
    ∀ string, (rules.hasMixedBacktrack string = true ∨ (blocks.map Block.base).Nodup) →
      Outcome (fun _ after => ((after.matchesOf string).map Match.spot).Nodup)
        (fun _ after => ((after.matchesOf string).map Match.spot).Nodup)
        (scanBlocks rules blocks start) := by
  have partly := kept_start rules start lists forgetful thorough rules.hasMixedBacktrack
  have wholly := kept_start rules start lists forgetful thorough (fun _ => true)
  have beside : Beside rules [] start start := by
    refine ⟨⟨start.recorded, rfl⟩, partly, wholly, ?_⟩
    intro string found member
    rw [matchesOf_start rules start lists] at member
    cases member
  have paired (different : (blocks.map Block.base).Nodup) :
      Paired Alike Alike (scanBlocks rules blocks start)
        (scanBlocksBy (fun _ => true) rules blocks start) := by
    rw [← scanBlocksBy_mixed]
    exact scanBlocksBy_beside blocks (by rwa [List.nil_append]) beside
  refine ⟨paired, ?_⟩
  rintro string (isMixed | different)
  · rw [← scanBlocksBy_mixed]
    refine (scanBlocksBy_kept blocks partly).imp ?_ ?_
    · intro _ after kept
      exact kept.distinct string isMixed
    · intro _ after distinct
      exact distinct string isMixed
  · have remembering := scanBlocksBy_kept blocks wholly
    have same := paired different
    cases ended : scanBlocks rules blocks start <;>
      cases endedBy : scanBlocksBy (fun _ => true) rules blocks start <;>
      rw [ended, endedBy] at same <;> rw [endedBy] at remembering
    case ok.ok _ after _ after' =>
      have distinct := remembering.distinct string rfl
      rwa [same.2.matchesOf] at distinct
    case ok.error => exact False.elim same
    case error.ok => exact False.elim same
    case error.error _ after _ after' =>
      have distinct := remembering string rfl
      rwa [same.2.matchesOf] at distinct

end

/-- The two letters of a text in two blocks are both recorded, and once. -/
theorem scanBlocks_distinct_two :
    let text : StringDecl := ⟨"a", .text "A", { }⟩
    let rule : RuleDecl := ⟨"r", none, false, false, [], [text], .found "a"⟩
    let blocks : List Block := [⟨0, ⟨#[0x41]⟩⟩, ⟨1, ⟨#[0x41]⟩⟩]
    ∃ rules, ({ rules := [("default", rule)] } : Collection).compile = .ok rules ∧
      let start := Context.new rules 0 { } 1 0 default
      Paired Alike Alike (scanBlocks rules blocks start)
        (scanBlocksBy (fun _ => true) rules blocks start) ∧
      Outcome (fun _ after => ((after.matchesOf 0).map Match.spot).Nodup)
        (fun _ after => ((after.matchesOf 0).map Match.spot).Nodup)
        (scanBlocks rules blocks start) := by
  intro text rule blocks
  have same : ({ rules := [("default", rule)] } : Collection).compilation =
      .ok ⟨#["default"], #[⟨"r", 0, false, false, [0], []⟩],
        #[⟨"a", 0, { }, .text [0x41]⟩], [[.found 0, .verdict 0]], []⟩ := by with_unfolding_all rfl
  have signs : signsOf [(⟨"a", 0, { }, .text [0x41]⟩ : StringDef)] = [⟨[0x41], 1, 0⟩] := by with_unfolding_all rfl
  have fits : (Automaton.tablesOf (signsOf [(⟨"a", 0, { }, .text [0x41]⟩ : StringDef)])
      1).cells.size ≤ Automaton.tableLimit := by
    refine (Automaton.size_cells_le _ _).trans ?_
    rw [signs]
    decide
  obtain ⟨rules, compiled, _⟩ := Collection.compile_ok rfl same fits
  obtain ⟨paired, distinct⟩ := scanBlocks_distinct rules (Context.new rules 0 { } 1 0 default)
    rfl rfl rfl blocks
  have different : (blocks.map Block.base).Nodup := by decide
  exact ⟨rules, compiled, paired different, distinct 0 (Or.inr different)⟩

/-! ## A base that comes again -/

theorem hasMixedBacktrack_eq_false {string : Nat} (known : string < rules.strings.size)
    (distance : UInt16) (alike : ∀ candidate ∈ rules.automaton.candidates,
      candidate.string = string → candidate.backtrack = distance) :
    rules.hasMixedBacktrack string = false := by
  rw [RuleSet.hasMixedBacktrack, rules.mixed_eq, ← Bool.not_eq_true,
    mixedBacktracks_eq_true _ known]
  rintro ⟨first, rest, whole, other, member, different⟩
  have same {listed : UInt16} (isListed : listed ∈ first :: rest) : listed = distance := by
    rw [← whole, distancesOf, List.mem_map] at isListed
    obtain ⟨candidate, isCandidate, rfl⟩ := isListed
    rw [List.mem_filter, decide_eq_true_eq, Array.mem_toList_iff] at isCandidate
    exact alike candidate isCandidate.1 isCandidate.2
  rw [same (List.mem_cons_of_mem _ member), same List.mem_cons_self] at different
  exact different rfl

/-- The state in which the only string has some matches and no places are remembered. -/
structure Holds (found : List Match) (context : Context) : Prop where
  thorough : context.flags.fastMode = false
  unlimited : context.timeout = 0
  sized : context.lists.size = 1
  list : context.matchesOf 0 = found
  total : context.total = found.length
  forgetful : ∀ entry, entry ∉ context.recorded

theorem holds_new (rules : RuleSet) (slot : Nat) (flags : ScanFlags) (fileSize : UInt64)
    (clock : Clock) (thorough : flags.fastMode = false) (size : rules.strings.size = 1) :
    Holds [] (Context.new rules slot flags fileSize 0 clock) where
  thorough := thorough
  unlimited := rfl
  sized := (size_lists_new rules slot flags fileSize 0 clock).trans size
  list := matchesOf_new rules slot flags fileSize 0 clock 0
  total := rfl
  forgetful := fun _ => Std.HashSet.not_mem_empty

theorem Holds.matchesOf_eq {found : List Match} (holds : Holds found context) (string : Nat) :
    context.matchesOf string = if string = 0 then found else [] := by
  split
  · rename_i isOnly
    rw [isOnly, holds.list]
  · rename_i other
    have outside : ¬string < context.lists.size := by
      have sized := holds.sized
      omega
    rw [Context.matchesOf, Array.getD, dif_neg outside]
    rfl

theorem Holds.scanBlock {collection : Collection} (compiled : collection.compile = .ok rules)
    {definition : StringDef} (only : rules.strings = #[definition])
    (single : rules.hasMixedBacktrack 0 = false) {added : Match}
    (hinted : ∀ offset length, definition.matchLength? block.data offset = some length →
      definition.Hinted block.data offset)
    (once : definition.occurrences block = [added]) {found : List Match}
    (holds : Holds found context)
    (otherBase : ∀ last, found.getLast? = some last → last.base ≠ block.base)
    (few : found.length < Context.matchLimit) :
    ∃ count after, Scan.scanBlock rules block context = .ok count after ∧
      Holds (found ++ [added]) after := by
  obtain ⟨_, compilation, _, gives⟩ := Collection.compile_eq_ok compiled
  have size : rules.strings.size = 1 := by rw [only]; rfl
  have unseen : Unseen block.base context := by
    refine ⟨?_, fun _ _ => holds.forgetful _⟩
    intro string last isLast
    rw [Context.lastMatch?_eq, holds.matchesOf_eq] at isLast
    split at isLast
    · exact otherBase last isLast
    · cases isLast
  have room : HasRoomFor rules block context := by
    constructor
    case each =>
      intro string other known
      rw [only] at known
      have isOnly := Array.mem_of_getElem? known
      rw [Array.mem_singleton] at isOnly
      rw [isOnly, once, ← Context.length_matchesOf, holds.matchesOf_eq]
      split <;> simp only [List.length_nil, List.length_singleton] <;> omega
    case all =>
      have roomy : Context.matchLimit ≤ Arena.capacity := by decide
      rw [only, holds.total]
      simp only [List.map_cons, List.map_nil, once, List.length_singleton, List.sum_singleton]
      omega
  have sizes := holds.sized.trans size.symm
  obtain ⟨count, after, ended, recorded⟩ :=
    (scanBlock_ends unseen holds.thorough gives.candidatesKnown sizes).ok
      ⟨holds.unlimited, room.found _⟩
  have known : rules.strings[0]? = some definition := by rw [only]; rfl
  have finds := foundBy_perm_occurrences compiled known hinted
  rw [once, List.perm_singleton] at finds
  refine ⟨count, after, ended, ?_⟩
  constructor
  case thorough => rw [recorded.flags, holds.thorough]
  case unlimited => rw [recorded.timeout, holds.unlimited]
  case sized => rw [recorded.size_lists, size]
  case list => rw [recorded.found, holds.list, finds]
  case total =>
    rw [recorded.total, holds.total, size, Finset.sum_range_one, finds, List.length_append]
  case forgetful =>
    rintro ⟨string, base, offset⟩ listed
    rcases (recorded.recorded string base offset).mp listed with
      before | ⟨isMixed, _, _, member, _⟩
    · exact holds.forgetful _ before
    · cases string with
      | zero =>
          rw [single] at isMixed
          cases isMixed
      | succ string =>
          have absent : rules.strings[string + 1]? = none := by
            rw [only]
            rfl
          rw [foundBy, absent] at member
          cases member

theorem Holds.enter {found : List Match} (holds : Holds found context) :
    Holds found (detectEntryPoint block context) := by
  obtain ⟨entryPoint, same⟩ := detectEntryPoint_rest block context
  rw [same]
  exact { holds with }

/-- A text of one letter is recorded again in a block the base of which has come before. -/
theorem scanBlocks_base_again :
    let text : StringDecl := ⟨"a", .text "A", { }⟩
    let rule : RuleDecl := ⟨"r", none, false, false, [], [text], .found "a"⟩
    let blocks : List Block := [⟨0, ⟨#[0x41]⟩⟩, ⟨1, ⟨#[0x41]⟩⟩, ⟨0, ⟨#[0x41]⟩⟩]
    ∃ rules, ({ rules := [("default", rule)] } : Collection).compile = .ok rules ∧
      let start := Context.new rules 0 { } 1 0 default
      (∃ after, scanBlocks rules blocks start = .ok () after ∧
        (after.matchesOf 0).map Match.spot = [(0, 0), (1, 0), (0, 0)]) ∧
      ¬Paired (fun first second => first.matchesOf = second.matchesOf) (fun _ _ => True)
        (scanBlocks rules blocks start) (scanBlocksBy (fun _ => true) rules blocks start) := by
  intro text rule blocks
  let definition : StringDef := ⟨"a", 0, { }, .text [0x41]⟩
  have same : ({ rules := [("default", rule)] } : Collection).compilation =
      .ok ⟨#["default"], #[⟨"r", 0, false, false, [0], []⟩], #[definition],
        [[.found 0, .verdict 0]], []⟩ := by with_unfolding_all rfl
  have signs : signsOf [definition] = [⟨[0x41], 1, 0⟩] := by with_unfolding_all rfl
  have fits : (Automaton.tablesOf (signsOf [definition]) 1).cells.size ≤ Automaton.tableLimit := by
    refine (Automaton.size_cells_le _ _).trans ?_
    rw [signs]
    decide
  obtain ⟨rules, compiled, gives⟩ := Collection.compile_ok rfl same fits
  have only : rules.strings = #[definition] := gives.sameStrings
  have size : rules.strings.size = 1 := by rw [only]; rfl
  have single : rules.hasMixedBacktrack 0 = false := by
    refine hasMixedBacktrack_eq_false (by rw [only]; decide) 1 ?_
    intro candidate listed _
    obtain ⟨sign, isSign, sameBacktrack, _⟩ := Automaton.sign_of_candidate gives.built listed
    rw [only, signs] at isSign
    rw [sameBacktrack, List.mem_singleton.mp isSign]
  have plain : ∀ regex, definition.pattern ≠ .regex regex := by
    intro regex isRegex
    cases isRegex
  have next (base : UInt64) (found : List Match) {context : Context} (holds : Holds found context)
      (otherBase : ∀ last, found.getLast? = some last → last.base ≠ base)
      (few : found.length < Context.matchLimit) :
      ∃ count after, scanBlock rules ⟨base, ⟨#[0x41]⟩⟩ context = .ok count after ∧
        Holds (found ++ [⟨base, 0, 1, ⟨#[0x41]⟩⟩]) after := by
    refine holds.scanBlock compiled only single ?_ ?_ otherBase few
    · intro offset length
      exact StringDef.hinted_of_matchLength? plain
    · with_unfolding_all rfl
  obtain ⟨_, first, endedFirst, holdsFirst⟩ := next 0 []
    (Holds.enter (holds_new rules 0 { } 1 default rfl size)) (by rintro _ ⟨⟩) (by decide)
  obtain ⟨_, second, endedSecond, holdsSecond⟩ := next 1 _ holdsFirst.enter
    (by rintro _ ⟨⟩; decide) (by decide)
  obtain ⟨_, third, endedThird, holdsThird⟩ := next 0 _ holdsSecond.enter
    (by rintro _ ⟨⟩; decide) (by decide)
  have ended : scanBlocks rules blocks (Context.new rules 0 { } 1 0 default) = .ok () third := by
    rw [scanBlocks_cons endedFirst, scanBlocks_cons endedSecond, scanBlocks_cons endedThird]
    rfl
  have spots : (third.matchesOf 0).map Match.spot = [(0, 0), (1, 0), (0, 0)] := by
    rw [holdsThird.list]
    rfl
  refine ⟨rules, compiled, ⟨third, ended, spots⟩, ?_⟩
  intro paired
  have remembering := scanBlocksBy_kept blocks
    (kept_start rules (Context.new rules 0 { } 1 0 default) rfl rfl rfl (fun _ => true))
  rw [ended] at paired
  cases endedBy : scanBlocksBy (fun _ => true) rules blocks
      (Context.new rules 0 { } 1 0 default) with
  | error _ after =>
      rw [endedBy] at paired
      exact paired
  | ok _ after =>
      rw [endedBy] at paired remembering
      have distinct := remembering.distinct 0 rfl
      rw [← paired.2, spots] at distinct
      exact absurd distinct (by decide)

end Scan

end ByteScan
