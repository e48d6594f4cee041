import ByteScan.Proofs.Scan.Matches
import ByteScan.Proofs.Pattern.Standing
import ByteScan.Proofs.Unrepeated
import ByteScan.Scan.Confirmation
import Mathlib.Algebra.BigOperators.Group.Finset.Piecewise
import Mathlib.Algebra.GroupWithZero.Nat
import Mathlib.Algebra.Order.BigOperators.Group.Finset

/-!
# What is recorded of a string

A string is looked for at one place after another. `Recorded` says what the match lists are after
some visits, and `Recorded.verify` that one more visit keeps it so. That the last match tells whether
a place is known rests on the order of the visits.
-/

namespace ByteScan

def StringDef.matchAt? (string : StringDef) (block : Block) (offset : Nat) : Option Match :=
  (string.matchLength? block.data offset).map (Match.ofBlock block offset)

def StringDef.occurrences (string : StringDef) (block : Block) : List Match :=
  (List.range block.data.size).filterMap (string.matchAt? block)

theorem StringDef.offset_of_matchAt? {string : StringDef} {block : Block} {offset : Nat}
    {found : Match} (same : string.matchAt? block offset = some found) :
    found.base = block.base ∧ found.offset = offset := by
  obtain ⟨length, _, rfl⟩ := Option.map_eq_some_iff.mp same
  exact ⟨rfl, rfl⟩

/-! ## The last of some matches -/

/-- Among matches at increasing offsets up to a place, only the last one can lie at the place. -/
theorem exists_offset_iff_last {list : List Match} {offset : Nat}
    (increasing : list.Pairwise fun first second => first.offset < second.offset)
    (bounded : ∀ found ∈ list, found.offset ≤ offset) :
    (∃ found ∈ list, found.offset = offset) ↔
      ∃ last, list.getLast? = some last ∧ last.offset = offset := by
  constructor
  · rintro ⟨found, member, same⟩
    rcases List.eq_nil_or_concat list with none | ⟨init, last, whole⟩
    · rw [none] at member
      cases member
    · rw [List.concat_eq_append] at whole
      rw [whole] at increasing bounded member
      refine ⟨last, by rw [whole, List.getLast?_concat], ?_⟩
      rcases List.mem_append.mp member with inInit | isLast
      · have below := (List.pairwise_append.mp increasing).2.2 found inInit last
          (List.mem_singleton_self _)
        have bound := bounded last List.mem_concat_self
        omega
      · rw [← List.mem_singleton.mp isLast, same]
  · rintro ⟨last, isLast, same⟩
    exact ⟨last, List.mem_of_getLast? isLast, same⟩

/-! ## Visits -/

namespace Scan

structure Visit where
  string : Nat
  offset : Nat
  deriving DecidableEq

def offsetsOf (visits : List Visit) (string : Nat) : List Nat :=
  (visits.filter fun visit => visit.string = string).map Visit.offset

/-- The places of a string with candidates at one distance are visited in their order. -/
def InOrder (rules : RuleSet) (visits : List Visit) : Prop :=
  visits.Pairwise fun first second =>
    first.string = second.string → rules.hasMixedBacktrack first.string = false →
      first.offset ≤ second.offset

def foundBy (rules : RuleSet) (block : Block) (visits : List Visit) (string : Nat) : List Match :=
  match rules.strings[string]? with
  | none => []
  | some definition =>
    (offsetsOf visits string).eraseDups.filterMap (definition.matchAt? block)

variable {rules : RuleSet} {block : Block} {visits : List Visit}

theorem mem_offsetsOf {string offset : Nat} :
    offset ∈ offsetsOf visits string ↔ ⟨string, offset⟩ ∈ visits := by
  simp only [offsetsOf, List.mem_map, List.mem_filter, decide_eq_true_eq]
  constructor
  · rintro ⟨visit, ⟨listed, rfl⟩, rfl⟩
    exact listed
  · intro listed
    exact ⟨_, ⟨listed, rfl⟩, rfl⟩

theorem offsetsOf_append (visits more : List Visit) (string : Nat) :
    offsetsOf (visits ++ more) string = offsetsOf visits string ++ offsetsOf more string := by
  rw [offsetsOf, List.filter_append, List.map_append]
  rfl

theorem offsetsOf_ordered {string : Nat} (ordered : InOrder rules visits)
    (single : rules.hasMixedBacktrack string = false) :
    (offsetsOf visits string).Pairwise (· ≤ ·) := by
  refine List.pairwise_map.mpr (List.pairwise_filter.mpr ?_)
  refine ordered.imp ?_
  intro first second before isFirst isSecond
  rw [decide_eq_true_eq] at isFirst isSecond
  exact before (isFirst.trans isSecond.symm) (isFirst ▸ single)

section

variable {string : Nat} {definition : StringDef} (known : rules.strings[string]? = some definition)
include known

theorem foundBy_eq : foundBy rules block visits string =
    (offsetsOf visits string).eraseDups.filterMap (definition.matchAt? block) := by
  rw [foundBy, known]

theorem mem_foundBy {found : Match} : found ∈ foundBy rules block visits string ↔
    ∃ offset, ⟨string, offset⟩ ∈ visits ∧ definition.matchAt? block offset = some found := by
  rw [foundBy_eq known, List.mem_filterMap]
  simp only [List.mem_eraseDups, mem_offsetsOf]

theorem place_of_mem_foundBy {found : Match} (member : found ∈ foundBy rules block visits string) :
    found.base = block.base ∧ ⟨string, found.offset⟩ ∈ visits ∧
      definition.matchAt? block found.offset = some found := by
  obtain ⟨offset, visited, same⟩ := (mem_foundBy known).mp member
  obtain ⟨sameBase, sameOffset⟩ := StringDef.offset_of_matchAt? same
  rw [sameOffset]
  exact ⟨sameBase, visited, same⟩

theorem foundBy_distinct :
    (foundBy rules block visits string).Pairwise fun first second =>
      first.offset ≠ second.offset := by
  rw [foundBy_eq known]
  refine List.Pairwise.filterMap (definition.matchAt? block) ?_ (eraseDups_nodup _)
  intro first second different found isFirst other isSecond
  rwa [(StringDef.offset_of_matchAt? isFirst).2, (StringDef.offset_of_matchAt? isSecond).2]

theorem foundBy_increasing (ordered : InOrder rules visits)
    (single : rules.hasMixedBacktrack string = false) :
    (foundBy rules block visits string).Pairwise fun first second =>
      first.offset < second.offset := by
  rw [foundBy_eq known]
  have increasing : (offsetsOf visits string).eraseDups.Pairwise (· < ·) :=
    eraseDups_pairwise ((offsetsOf_ordered ordered single).imp Nat.lt_of_le_of_ne)
  refine List.Pairwise.filterMap (definition.matchAt? block) ?_ increasing
  intro first second before found isFirst other isSecond
  rwa [(StringDef.offset_of_matchAt? isFirst).2, (StringDef.offset_of_matchAt? isSecond).2]

theorem length_foundBy_le :
    (foundBy rules block visits string).length ≤ (definition.occurrences block).length := by
  have distinct : (foundBy rules block visits string).Nodup :=
    (foundBy_distinct known).imp fun different same => different (congrArg Match.offset same)
  refine (distinct.subperm ?_).length_le
  intro found member
  obtain ⟨_, _, same⟩ := place_of_mem_foundBy known member
  obtain ⟨length, occurs, _⟩ := Option.map_eq_some_iff.mp same
  rw [StringDef.occurrences, List.mem_filterMap]
  exact ⟨found.offset, List.mem_range.mpr (StringDef.lt_size_of_matchLength? occurs), same⟩

theorem foundBy_concat_same (offset : Nat) :
    foundBy rules block (visits ++ [⟨string, offset⟩]) string =
      if ∃ found ∈ foundBy rules block visits string, found.offset = offset then
        foundBy rules block visits string
      else foundBy rules block visits string ++ (definition.matchAt? block offset).toList := by
  have added : offsetsOf (visits ++ [⟨string, offset⟩]) string =
      offsetsOf visits string ++ [offset] := by
    rw [offsetsOf_append]
    simp [offsetsOf]
  by_cases visited : offset ∈ offsetsOf visits string
  · rw [foundBy_eq known, added, eraseDups_concat, if_pos visited, ← foundBy_eq known]
    split
    · rfl
    · rename_i unfound
      have nowhere : definition.matchAt? block offset = none := by
        refine Option.eq_none_iff_forall_ne_some.mpr ?_
        intro found same
        exact unfound ⟨found, (mem_foundBy known).mpr ⟨offset, mem_offsetsOf.mp visited, same⟩,
          (StringDef.offset_of_matchAt? same).2⟩
      rw [nowhere]
      exact (List.append_nil _).symm
  · have unfound : ¬∃ found ∈ foundBy rules block visits string, found.offset = offset := by
      rintro ⟨found, member, rfl⟩
      exact visited (mem_offsetsOf.mpr (place_of_mem_foundBy known member).2.1)
    rw [if_neg unfound, foundBy_eq known, added, eraseDups_concat, if_neg visited,
      List.filterMap_append, ← foundBy_eq known]
    rfl

end

theorem foundBy_concat_other (visit : Visit) {string : Nat} (different : visit.string ≠ string) :
    foundBy rules block (visits ++ [visit]) string = foundBy rules block visits string := by
  have none : offsetsOf [visit] string = [] := by simp [offsetsOf, different]
  rw [foundBy, offsetsOf_append, none, List.append_nil]
  rfl

/-! ## Recorded visits -/

/-- The state after some visits for strings in a block, all of which went well. -/
structure Recorded (rules : RuleSet) (block : Block) (earlier : Context) (visits : List Visit)
    (context : Context) : Prop where
  flags : context.flags = earlier.flags
  timeout : context.timeout = earlier.timeout
  size_lists : context.lists.size = rules.strings.size
  found : ∀ string,
    context.matchesOf string = earlier.matchesOf string ++ foundBy rules block visits string
  recorded : ∀ string base offset, (string, base, offset) ∈ context.recorded ↔
    (string, base, offset) ∈ earlier.recorded ∨
      rules.hasMixedBacktrack string = true ∧ base = block.base ∧
        ∃ found ∈ foundBy rules block visits string, found.offset = offset
  total : context.total = earlier.total +
    ∑ string ∈ Finset.range rules.strings.size, (foundBy rules block visits string).length

/-- No match with a base can have been recorded or remembered. -/
structure Unseen (base : UInt64) (context : Context) : Prop where
  last : ∀ string found, context.lastMatch? string = some found → found.base ≠ base
  recorded : ∀ string offset, (string, base, offset) ∉ context.recorded

structure HasRoomFor (rules : RuleSet) (block : Block) (context : Context) : Prop where
  each : ∀ string definition, rules.strings[string]? = some definition →
    context.matchCount string + (definition.occurrences block).length ≤ Context.matchLimit
  all : context.total + (rules.strings.toList.map fun definition =>
    (definition.occurrences block).length).sum ≤ Arena.capacity

structure HasRoomForFound (rules : RuleSet) (block : Block) (visits : List Visit)
    (context : Context) : Prop where
  each : ∀ string < rules.strings.size,
    context.matchCount string + (foundBy rules block visits string).length ≤ Context.matchLimit
  all : context.total + ∑ string ∈ Finset.range rules.strings.size,
    (foundBy rules block visits string).length ≤ Arena.capacity

theorem mem_recorded_remember {context : Context} {string offset other place : Nat}
    {base : UInt64} :
    (other, base, place) ∈ (remember rules string block offset context).recorded ↔
      (other, base, place) ∈ context.recorded ∨
        rules.hasMixedBacktrack string = true ∧ other = string ∧ base = block.base ∧
          place = offset := by
  rw [remember]
  split
  · rename_i isMixed
    simp only [Context.markRecorded, Std.HashSet.mem_insert, beq_iff_eq, Prod.mk.injEq, isMixed,
      true_and, @eq_comm _ string, @eq_comm _ block.base, @eq_comm _ offset]
    exact or_comm
  · rename_i isSingle
    simp only [isSingle, false_and, or_false, Bool.false_eq_true]

theorem remember_rest (rules : RuleSet) (block : Block) (context : Context) (string offset : Nat) :
    (remember rules string block offset context).flags = context.flags ∧
      (remember rules string block offset context).timeout = context.timeout ∧
      (remember rules string block offset context).lists = context.lists ∧
      (remember rules string block offset context).total = context.total := by
  rw [remember]
  split <;> exact ⟨rfl, rfl, rfl, rfl⟩

theorem foundBy_nil (string : Nat) : foundBy rules block [] string = [] := by
  rw [foundBy]
  cases rules.strings[string]? <;> rfl

theorem recorded_start {context : Context} (sizes : context.lists.size = rules.strings.size) :
    Recorded rules block context [] context where
  flags := rfl
  timeout := rfl
  size_lists := sizes
  found := fun string => by rw [foundBy_nil, List.append_nil]
  recorded := fun string base offset => by simp [foundBy_nil]
  total := by simp [foundBy_nil]

theorem sum_range_le_sum_map {count : Nat → Nat} (bound : α → Nat) {items : List α}
    (each : ∀ index item, items[index]? = some item → count index ≤ bound item) :
    ∑ index ∈ Finset.range items.length, count index ≤ (items.map bound).sum := by
  induction items generalizing count with
  | nil => exact Nat.le_refl _
  | cons item items ih =>
      rw [List.length_cons, Finset.sum_range_succ', List.map_cons, List.sum_cons, Nat.add_comm]
      exact Nat.add_le_add (each 0 item rfl) (ih fun index => each (index + 1))

theorem HasRoomFor.found {context : Context} (room : HasRoomFor rules block context)
    (visits : List Visit) : HasRoomForFound rules block visits context := by
  constructor
  · intro string within
    have known := Array.getElem?_eq_getElem within
    have bound : (foundBy rules block visits string).length ≤ _ := length_foundBy_le known
    have each := room.each string _ known
    omega
  · have bound : ∑ string ∈ Finset.range rules.strings.toList.length,
        (foundBy rules block visits string).length ≤ _ :=
      sum_range_le_sum_map (fun definition => (definition.occurrences block).length)
        fun string definition listed =>
          length_foundBy_le (Array.getElem?_toList.symm.trans listed)
    have all := room.all
    rw [Array.length_toList] at bound
    omega

/-- Later visits only add to what was found. -/
theorem length_foundBy_mono {later : List Visit} (before : visits <+: later)
    (string : Nat) :
    (foundBy rules block visits string).length ≤ (foundBy rules block later string).length := by
  obtain ⟨more, rfl⟩ := before
  rw [foundBy, foundBy]
  split
  · exact Nat.le_refl _
  · rw [offsetsOf_append, List.eraseDups_append, List.filterMap_append, List.length_append]
    exact Nat.le_add_right _ _

section

variable {earlier context : Context} {later : List Visit}
  (recorded : Recorded rules block earlier visits context)
  (room : HasRoomForFound rules block later earlier) (before : visits <+: later)
include recorded room before

theorem Recorded.matchCount_le {string : Nat} (known : string < rules.strings.size) :
    context.matchCount string ≤ Context.matchLimit := by
  have fewer : (foundBy rules block visits string).length ≤ _ :=
    length_foundBy_mono before string
  have each := room.each string known
  rw [← Context.length_matchesOf, recorded.found, List.length_append, Context.length_matchesOf]
  omega

theorem Recorded.total_le : context.total ≤ Arena.capacity := by
  have fewer : ∑ string ∈ Finset.range rules.strings.size,
      (foundBy rules block visits string).length ≤
        ∑ string ∈ Finset.range rules.strings.size, (foundBy rules block later string).length :=
    Finset.sum_le_sum fun string _ => length_foundBy_mono before string
  have all := room.all
  rw [recorded.total]
  omega

end

section

variable {earlier context : Context} {string offset : Nat} {definition : StringDef}
  (recorded : Recorded rules block earlier visits context)
  (unseen : Unseen block.base earlier)
  (known : rules.strings[string]? = some definition)
  (ordered : InOrder rules (visits ++ [⟨string, offset⟩]))
include recorded unseen known ordered

theorem Recorded.isKnown_iff : isKnown rules context string block offset = true ↔
    ∃ found ∈ foundBy rules block visits string, found.offset = offset := by
  obtain ⟨before, _, between⟩ := List.pairwise_append.mp ordered
  rw [isKnown]
  split
  · rename_i isMixed
    have listed := recorded.recorded string block.base offset
    rw [Context.isRecorded, Std.HashSet.contains_iff_mem, listed]
    simp only [unseen.recorded, isMixed, false_or, true_and]
  · rename_i isSingle
    rw [Bool.not_eq_true] at isSingle
    have increasing : (foundBy rules block visits string).Pairwise _ :=
      foundBy_increasing known before isSingle
    have bounded {found : Match} (member : found ∈ foundBy rules block visits string) :
        found.offset ≤ offset :=
      between _ (place_of_mem_foundBy known member).2.1 _ (List.mem_singleton_self _) rfl isSingle
    rw [exists_offset_iff_last increasing fun _ => bounded, Context.lastMatch?_eq, recorded.found,
      List.getLast?_append]
    cases isLast : (foundBy rules block visits string).getLast? with
    | none =>
        rw [Option.none_or, ← Context.lastMatch?_eq]
        simp only [reduceCtorEq, false_and, exists_false, iff_false]
        split
        · rename_i last isEarlier
          have other := unseen.last string last isEarlier
          simp only [Bool.and_eq_true, beq_iff_eq, other, false_and, not_false_eq_true]
        · exact Bool.false_ne_true
    | some last =>
        have sameBase := (place_of_mem_foundBy known (List.mem_of_getLast? isLast)).1
        simp only [Option.some_or, Bool.and_eq_true, beq_iff_eq, sameBase, true_and,
          Option.some.injEq, exists_eq_left']

theorem Recorded.skip (passed : isKnown rules context string block offset = true ∨
      definition.matchLength? block.data offset = none) :
    Recorded rules block earlier (visits ++ [⟨string, offset⟩]) context := by
  have unchanged (other : Nat) : foundBy rules block (visits ++ [⟨string, offset⟩]) other =
      foundBy rules block visits other := by
    by_cases same : string = other
    · subst same
      rw [foundBy_concat_same known]
      split
      · rfl
      · rename_i unfound
        rcases passed with isKnown | nowhere
        · exact absurd ((recorded.isKnown_iff unseen known ordered).mp isKnown) unfound
        · rw [StringDef.matchAt?, nowhere]
          exact List.append_nil _
    · exact foundBy_concat_other _ same
  refine ⟨recorded.flags, recorded.timeout, recorded.size_lists, ?_, ?_, ?_⟩
  · intro other
    rw [unchanged, recorded.found]
  · intro other base place
    rw [unchanged, recorded.recorded]
  · simp only [unchanged, recorded.total]

theorem Recorded.append {after : Context} {length : Nat}
    (unknown : isKnown rules context string block offset ≠ true)
    (occurs : definition.matchLength? block.data offset = some length)
    (appended : (remember rules string block offset context).Appended string
      (.ofBlock block offset length) after) :
    Recorded rules block earlier (visits ++ [⟨string, offset⟩]) after := by
  have within : string < rules.strings.size := (Array.getElem?_eq_some_iff.mp known).1
  have added : foundBy rules block (visits ++ [⟨string, offset⟩]) string =
      foundBy rules block visits string ++ [.ofBlock block offset length] := by
    have unfound := mt (recorded.isKnown_iff unseen known ordered).mpr unknown
    rw [foundBy_concat_same known, if_neg unfound, StringDef.matchAt?, occurs]
    rfl
  have kept {other : Nat} (different : string ≠ other) :
      foundBy rules block (visits ++ [⟨string, offset⟩]) other = foundBy rules block visits other :=
    foundBy_concat_other _ different
  have lists (other : Nat) :
      (remember rules string block offset context).matchesOf other = context.matchesOf other := by
    rw [remember]
    split <;> rfl
  have rest := remember_rest rules block context string offset
  refine ⟨?_, ?_, ?_, ?_, ?_, ?_⟩
  · rw [appended.flags, rest.1, recorded.flags]
  · rw [appended.timeout, rest.2.1, recorded.timeout]
  · rw [appended.size_lists, rest.2.2.1, recorded.size_lists]
  · intro other
    by_cases same : string = other
    · subst same
      rw [appended.same, lists, recorded.found, added, List.append_assoc]
    · rw [appended.other other same, lists, recorded.found, kept same]
  · intro other base place
    rw [appended.recorded, mem_recorded_remember, recorded.recorded]
    by_cases same : string = other
    · subst same
      simp only [added, List.mem_append, List.mem_singleton, or_and_right, exists_or,
        exists_eq_left, Match.ofBlock, true_and, @eq_comm _ offset]
      rw [or_assoc, ← and_or_left, ← and_or_left]
    · simp only [kept same, Ne.symm same, false_and, and_false, or_false]
  · have lengths (other : Nat) :
        (foundBy rules block (visits ++ [⟨string, offset⟩]) other).length =
          (foundBy rules block visits other).length + if other = string then 1 else 0 := by
      by_cases same : string = other
      · subst same
        rw [added, if_pos rfl, List.length_append, List.length_singleton]
      · rw [kept same, if_neg (Ne.symm same), Nat.add_zero]
    rw [appended.total, rest.2.2.2, recorded.total]
    simp only [lengths, Finset.sum_add_distrib, Finset.sum_ite_eq', Finset.mem_range, within,
      if_true, Nat.add_assoc]

/-- A visit is recorded, and nothing is in its way if there is room for what this and later visits
find. -/
theorem Recorded.confirm (thorough : earlier.flags.fastMode = false) {later : List Visit}
    (before : visits ++ [⟨string, offset⟩] <+: later) :
    Ends (HasRoomForFound rules block later earlier)
      (fun _ => Recorded rules block earlier (visits ++ [⟨string, offset⟩]))
      (confirm rules string block offset context) := by
  have within : string < context.lists.size := by
    rw [recorded.size_lists]
    exact (Array.getElem?_eq_some_iff.mp known).1
  have unsettled : isSettled context string = false := by
    rw [isSettled, recorded.flags, thorough, Bool.false_and]
  rw [Scan.confirm, known, unsettled, Bool.false_or]
  simp only
  split
  · rename_i isKnown
    exact recorded.skip unseen known ordered (Or.inl isKnown)
  · rename_i unknown
    split
    · rename_i nowhere
      exact recorded.skip unseen known ordered (Or.inr nowhere)
    · rename_i length occurs
      have sameLists : (remember rules string block offset context).lists = context.lists :=
        (remember_rest rules block context string offset).2.2.1
      rw [← sameLists] at within
      have full := recorded.append unseen known ordered unknown occurs
        (Context.appended_append _ (.ofBlock block offset length) within)
      refine ((Context.addMatch_ends _ _ within).spare ?_).imp ?_
      · intro room
        have count := full.matchCount_le room before (Array.getElem?_eq_some_iff.mp known).1
        have total := full.total_le room before
        rw [← Context.length_matchesOf, Context.matchesOf_append_same _ _ within,
          List.length_append, Context.length_matchesOf, List.length_singleton] at count
        exact ⟨count, total⟩
      · intro _ after appended
        exact recorded.append unseen known ordered unknown occurs appended

theorem Recorded.verify (thorough : earlier.flags.fastMode = false) {later : List Visit}
    (before : visits ++ [⟨string, offset⟩] <+: later) :
    Ends (HasRoomForFound rules block later earlier)
      (fun _ => Recorded rules block earlier (visits ++ [⟨string, offset⟩]))
      (verify rules string block offset context) := by
  rw [Scan.verify]
  split
  · have timed : Recorded rules block earlier visits { context with clock := context.clock.look.2 } :=
      { recorded with }
    have confirmed := timed.confirm unseen known ordered thorough before
    simp only
    split
    · rename_i after same
      rw [same] at confirmed
      exact { confirmed with }
    · rename_i error after same
      rw [same] at confirmed
      exact confirmed
  · exact recorded.confirm unseen known ordered thorough before

end

end Scan

end ByteScan
