import ByteScan.Proofs.Scan.Computing
import ByteScan.Proofs.Scan.Echoing

/-!
# Evaluating the conditions of one namespace

Where the strings of a namespace have the same matches, its conditions have the same values, whether the
code for other namespaces is between theirs or not. So its rules have the same verdicts
(`Agrees.evaluate`), and global rules of other namespaces void none of them.
-/

namespace ByteScan

/-! ## Rule sets for a collection and for one of its namespaces -/

theorem toNat_ofNat_of_listed {numbers : List Nat} {bound index number : Nat}
    (distinct : numbers.Nodup) (bounded : ∀ number ∈ numbers, number < bound)
    (fits : bound ≤ UInt32.size) (listed : numbers[index]? = some number) :
    (UInt32.ofNat number).toNat = number ∧ (UInt32.ofNat index).toNat = index := by
  have small := bounded number (List.mem_of_getElem? listed)
  have count : numbers.length ≤ bound := by
    refine (List.subperm_of_subset distinct ?_).length_le.trans List.length_range.le
    exact fun number member => List.mem_range.mpr (bounded number member)
  have within := (List.getElem?_eq_some_iff.mp listed).1
  exact ⟨UInt32.toNat_ofNat_of_lt' (by omega), UInt32.toNat_ofNat_of_lt' (by omega)⟩

/-- One rule set is for a collection, the other one for the rules of one of its namespaces. -/
structure Restriction (collection : Collection) (space : String) (selection : Selection)
    (compilation compilation' : Compilation) (whole part : RuleSet) : Prop where
  gives : collection.Gives compilation whole
  gives' : (collection.only space).Gives compilation' part
  selected : Selected space selection compilation compilation'
  numbered : compilation.Numbered collection.rules
  numbered' : compilation'.Numbered (collection.only space).rules
  fits : whole.FitsWords
  literals : ∀ entry ∈ collection.rules, entry.2.condition.LiteralsFit

namespace Restriction

variable {collection : Collection} {space : String} {selection : Selection}
  {compilation compilation' : Compilation} {whole part : RuleSet}
  (restriction : Restriction collection space selection compilation compilation' whole part)
include restriction

theorem excerpt : Excerpt selection.strings whole part :=
  restriction.gives.excerpt restriction.gives' restriction.selected

theorem literals' : ∀ entry ∈ (collection.only space).rules, entry.2.condition.LiteralsFit :=
  fun entry member => restriction.literals entry (List.mem_filter.mp member).1

theorem externals : part.externals = whole.externals :=
  restriction.gives'.sameExternals.trans restriction.gives.sameExternals.symm

theorem small_string {index number : Nat} (listed : selection.strings[index]? = some number) :
    (UInt32.ofNat number).toNat = number ∧ (UInt32.ofNat index).toNat = index := by
  have strings := restriction.selected.strings
  refine toNat_ofNat_of_listed strings.distinct strings.bound ?_ listed
  simpa only [restriction.gives.sameStrings] using restriction.fits.stringsFit

theorem small_rule {index number : Nat} (listed : selection.rules[index]? = some number) :
    (UInt32.ofNat number).toNat = number ∧ (UInt32.ofNat index).toNat = index := by
  have selected := restriction.selected
  refine toNat_ofNat_of_listed selected.distinct selected.bound ?_ listed
  simpa only [restriction.gives.sameRules] using restriction.fits.rulesFit

theorem exists_twin {index number : Nat} (listed : selection.rules[index]? = some number) :
    ∃ rule twin, whole.rules[number]? = some rule ∧ part.rules[index]? = some twin ∧
      RuleTwin space selection compilation compilation' (rule, number) (twin, index) := by
  have bound := restriction.selected.bound number (List.mem_of_getElem? listed)
  have isRule := Array.getElem?_eq_getElem bound
  have member : (compilation.rules[number], number) ∈ compilation.rules.toList.zipIdx := by
    rw [List.mem_zipIdx_iff_getElem?, Array.getElem?_toList]
    exact isRule
  rcases restriction.selected.rules.mem_cases member with ⟨⟨twin, place⟩, inPart, isTwin⟩ | left
  · have samePlace := (eq_iff_of_listed restriction.selected.distinct isTwin.listed listed).mpr rfl
    obtain rfl : place = index := samePlace
    rw [List.mem_zipIdx_iff_getElem?, Array.getElem?_toList] at inPart
    rw [restriction.gives.sameRules, restriction.gives'.sameRules]
    exact ⟨_, twin, isRule, inPart, isTwin⟩
  · exact absurd (List.mem_of_getElem? listed) left.absent

theorem elsewhere {number : Nat} {rule : Rule} (isRule : whole.rules[number]? = some rule)
    (absent : number ∉ selection.rules) :
    ∃ other, whole.spaces[rule.space]? = some other ∧ other ≠ space := by
  have member : (rule, number) ∈ compilation.rules.toList.zipIdx := by
    rw [List.mem_zipIdx_iff_getElem?, Array.getElem?_toList, ← restriction.gives.sameRules]
    exact isRule
  rw [restriction.gives.sameSpaces]
  rcases restriction.selected.rules.mem_cases member with ⟨_, _, isTwin⟩ | left
  · exact absurd (List.mem_of_getElem? isTwin.listed) absent
  · exact left.elsewhere

end Restriction

namespace Scan

/-! ## Values -/

/-- Two states agree on one namespace: on the matches of its strings, on the verdicts on its rules and on
whether it is void. -/
structure Agrees (space : String) (selection : Selection) (whole part : RuleSet)
    (first second : Context) : Prop where
  echo : Echo selection.strings whole part first second
  sizesMatched : first.matchedRules.size = whole.rules.size ∧
    second.matchedRules.size = part.rules.size
  sizesUnsatisfied : first.unsatisfiedSpaces.size = whole.spaces.size ∧
    second.unsatisfiedSpaces.size = part.spaces.size
  matched : ∀ (index number : Nat), selection.rules[index]? = some number →
    second.ruleMatched index = first.ruleMatched number
  unsatisfied : ∀ (index number : Nat), part.spaces[index]? = some space →
    whole.spaces[number]? = some space → second.isUnsatisfied index = first.isUnsatisfied number

variable {collection : Collection} {space : String} {selection : Selection}
  {compilation compilation' : Compilation} {whole part : RuleSet} {first second : Context}
  (restriction : Restriction collection space selection compilation compilation' whole part)
include restriction

theorem Agrees.valueOf_eq (agrees : Agrees space selection whole part first second)
    {instruction twin : Instruction} (isTwin : InstructionTwin selection instruction twin)
    (stack : List Value) : valueOf part second stack twin = valueOf whole first stack instruction := by
  cases isTwin with
  | plain isPlain =>
      cases instruction with
      | fileSize => simp only [valueOf, agrees.echo.fileSize]
      | entryPoint => simp only [valueOf, agrees.echo.entryPoint]
      | external index =>
          simp only [valueOf, restriction.externals, Context.object?, agrees.echo.objects]
      | found | count | foundAt | foundIn | ofThem | rule | halt | verdict => cases isPlain
      | _ => rfl
  | found listed | count listed =>
      obtain ⟨small, small'⟩ := restriction.small_string listed
      simp only [valueOf, small, small', agrees.echo.matchCount_eq listed]
  | foundAt listed | foundIn listed =>
      obtain ⟨small, small'⟩ := restriction.small_string listed
      simp only [valueOf, small, small', agrees.echo.found _ _ listed]
  | ofThem listed minimum =>
      obtain ⟨small, small'⟩ := restriction.small_rule listed
      obtain ⟨rule, twin, isRule, isTwin, same⟩ := restriction.exists_twin listed
      simp only [valueOf, small, small', isRule, isTwin, countFound]
      have counts : rule.strings.countP (fun string => decide (0 < first.matchCount string)) =
          twin.strings.countP fun string => decide (0 < second.matchCount string) := by
        rw [List.countP_eq_length_filter, List.countP_eq_length_filter]
        refine (List.rel_filter ?_ same.strings).length_eq
        intro number index listed
        simp only [agrees.echo.matchCount_eq listed]
      rw [counts]
  | rule listed =>
      obtain ⟨small, small'⟩ := restriction.small_rule listed
      simp only [valueOf, small, small', agrees.matched _ _ listed]

theorem Agrees.compute_eq (agrees : Agrees space selection whole part first second)
    {code others : List Instruction} (twins : List.Forall₂ (InstructionTwin selection) code others)
    (stack : List Value) : compute part second stack others = compute whole first stack code := by
  induction twins generalizing stack with
  | nil => rfl
  | cons isTwin _ ih =>
      rw [compute, compute, agrees.valueOf_eq restriction isTwin]
      simp only [ih]

/-! ## Verdicts -/

omit restriction in
theorem sizes_recordVerdict (rules : RuleSet) (number : Nat) (value : Value) (context : Context) :
    (recordVerdict rules number value context).matchedRules.size = context.matchedRules.size ∧
      (recordVerdict rules number value context).unsatisfiedSpaces.size =
        context.unsatisfiedSpaces.size :=
  (recordVerdict_rest rules number value context).2.2.2.2.2

theorem Agrees.recordVerdict (agrees : Agrees space selection whole part first second)
    {index number : Nat} (listed : selection.rules[index]? = some number) (value : Value) :
    Agrees space selection whole part (recordVerdict whole number value first)
      (recordVerdict part index value second) := by
  obtain ⟨rule, twin, isRule, isTwin, same⟩ := restriction.exists_twin listed
  have inWhole : whole.spaces[rule.space]? = some space := by
    rw [restriction.gives.sameSpaces]
    exact same.inWhole
  have inPart : part.spaces[twin.space]? = some space := by
    rw [restriction.gives'.sameSpaces]
    exact same.inPart
  have sizes := sizes_recordVerdict whole number value first
  have sizes' := sizes_recordVerdict part index value second
  constructor
  case echo =>
    rw [recordVerdict_eq whole, recordVerdict_eq part]
    exact { agrees.echo with }
  case sizesMatched =>
    exact ⟨sizes.1.trans agrees.sizesMatched.1, sizes'.1.trans agrees.sizesMatched.2⟩
  case sizesUnsatisfied =>
    exact ⟨sizes.2.trans agrees.sizesUnsatisfied.1, sizes'.2.trans agrees.sizesUnsatisfied.2⟩
  case matched =>
    intro other another listed'
    have within : number < first.matchedRules.size :=
      agrees.sizesMatched.1 ▸ (Array.getElem?_eq_some_iff.mp isRule).1
    have within' : index < second.matchedRules.size :=
      agrees.sizesMatched.2 ▸ (Array.getElem?_eq_some_iff.mp isTwin).1
    rw [ruleMatched_recordVerdict isRule value within, ruleMatched_recordVerdict isTwin value within',
      agrees.matched other another listed']
    simp only [eq_iff_of_listed restriction.selected.distinct listed listed']
  case unsatisfied =>
    intro other another isOther isAnother
    have within : rule.space < first.unsatisfiedSpaces.size :=
      agrees.sizesUnsatisfied.1 ▸ (Array.getElem?_eq_some_iff.mp inWhole).1
    have within' : twin.space < second.unsatisfiedSpaces.size :=
      agrees.sizesUnsatisfied.2 ▸ (Array.getElem?_eq_some_iff.mp inPart).1
    have sameGlobal : twin.isGlobal = rule.isGlobal := (congrArg Rule.isGlobal same.alike).symm
    have isSpace : rule.space = another := by
      rw [restriction.gives.sameSpaces] at inWhole isAnother
      exact (Compilation.space_eq_iff restriction.selected.spacesWhole inWhole isAnother).mpr rfl
    have isSpace' : twin.space = other := by
      rw [restriction.gives'.sameSpaces] at inPart isOther
      exact (Compilation.space_eq_iff restriction.selected.spacesPart inPart isOther).mpr rfl
    rw [isUnsatisfied_recordVerdict isRule value within, isUnsatisfied_recordVerdict isTwin value within',
      agrees.unsatisfied other another isOther isAnother, sameGlobal, decide_eq_true isSpace,
      decide_eq_true isSpace']

/-- The verdict on a rule of another namespace does not matter to this one. -/
theorem Agrees.recordVerdict_left (agrees : Agrees space selection whole part first second)
    {number : Nat} (known : number < whole.rules.size) (absent : number ∉ selection.rules)
    (value : Value) :
    Agrees space selection whole part (Scan.recordVerdict whole number value first) second := by
  have isRule := Array.getElem?_eq_getElem known
  obtain ⟨other, inOther, different⟩ := restriction.elsewhere isRule absent
  have sizes := sizes_recordVerdict whole number value first
  constructor
  case echo =>
    rw [recordVerdict_eq whole]
    exact { agrees.echo with }
  case sizesMatched => exact ⟨sizes.1.trans agrees.sizesMatched.1, agrees.sizesMatched.2⟩
  case sizesUnsatisfied =>
    exact ⟨sizes.2.trans agrees.sizesUnsatisfied.1, agrees.sizesUnsatisfied.2⟩
  case matched =>
    intro index another listed
    have within : number < first.matchedRules.size := agrees.sizesMatched.1 ▸ known
    have apart : number ≠ another := fun same => absent (same ▸ List.mem_of_getElem? listed)
    rw [ruleMatched_recordVerdict isRule value within, agrees.matched index another listed,
      decide_eq_false apart, Bool.false_and, Bool.false_or]
  case unsatisfied =>
    intro index another inPart inWhole
    have within : whole.rules[number].space < first.unsatisfiedSpaces.size :=
      agrees.sizesUnsatisfied.1 ▸ (Array.getElem?_eq_some_iff.mp inOther).1
    have apart : whole.rules[number].space ≠ another := fun same => by
      rw [same, inWhole] at inOther
      exact different (Option.some.inj inOther).symm
    rw [isUnsatisfied_recordVerdict isRule value within, agrees.unsatisfied index another inPart inWhole,
      decide_eq_false apart, Bool.and_false, Bool.false_or]

/-! ## Code -/

omit restriction in
theorem follow_cons (rules : RuleSet) (instructions : List Instruction)
    (codes : List (List Instruction)) (left position begun : Nat) (timer : Option Nanoseconds) :
    follow rules ((instructions :: codes).flatten.length + left)
        ⟨⟨position, encodeAll ((instructions :: codes).flatten ++ [.halt])⟩, [], begun, timer⟩ =
      follow rules (instructions.length + (codes.flatten.length + left))
        ⟨⟨position, encodeAll instructions ++ encodeAll (codes.flatten ++ [.halt])⟩, [], begun,
          timer⟩ := by
  rw [List.flatten_cons, List.length_append, Nat.add_assoc, List.append_assoc, encodeAll_append]

/-- The code for the namespace gives the same verdicts, whatever other code stands between. -/
theorem Agrees.follow (agrees : Agrees space selection whole part first second)
    {codes twins : List (List Instruction)}
    (chosen : Chosen (CodeTwin selection) (CodeLeft selection compilation) codes twins)
    (inWhole : ∀ instructions ∈ codes, instructions ∈ compilation.code.reverse)
    (inPart : ∀ instructions ∈ twins, instructions ∈ compilation'.code.reverse)
    (left left' position position' begun begun' : Nat) (timer timer' : Option Nanoseconds) :
    Leads (fun _ _ => Agrees space selection whole part)
      (follow whole (codes.flatten.length + (left + 1))
        ⟨⟨position, encodeAll (codes.flatten ++ [.halt])⟩, [], begun, timer⟩ first)
      (follow part (twins.flatten.length + (left' + 1))
        ⟨⟨position', encodeAll (twins.flatten ++ [.halt])⟩, [], begun', timer'⟩ second) := by
  induction chosen generalizing first second position position' begun begun' timer timer' with
  | nil =>
      rw [List.flatten_nil, List.length_nil, Nat.zero_add, Nat.zero_add,
        follow_step agrees.echo.unlimited.1 rfl, follow_step agrees.echo.unlimited.2 rfl]
      exact .ok agrees
  | @kept instructions twin codes twins isTwin _ ih =>
      obtain ⟨isListed, restListed⟩ := List.forall_mem_cons.mp inWhole
      obtain ⟨isListed', restListed'⟩ := List.forall_mem_cons.mp inPart
      obtain ⟨code, others, number, index, rfl, rfl, listed, alike⟩ := isTwin.exists_code
      have concludes := concludes_of_compilation restriction.gives restriction.numbered
        restriction.literals isListed
      have concludes' := concludes_of_compilation restriction.gives' restriction.numbered'
        restriction.literals' isListed'
      rw [follow_cons, follow_cons]
      rcases follow_rule_cases concludes agrees.echo.unlimited.1 (codes.flatten.length + (left + 1))
        position (encodeAll (codes.flatten ++ [.halt])) begun timer with
        ⟨error, _, failed⟩ | ⟨value, clock, times, _, _, _, computed, followed⟩
      · rw [failed]
        exact .error _ _ _
      · rcases follow_rule_cases concludes' agrees.echo.unlimited.2 (twins.flatten.length + (left' + 1))
          position' (encodeAll (twins.flatten ++ [.halt])) begun' timer' with
          ⟨error, computed', _⟩ | ⟨value', clock', times', _, _, _, computed', followed'⟩
        · rw [agrees.compute_eq restriction alike, computed] at computed'
          cases computed'
        · rw [agrees.compute_eq restriction alike, computed] at computed'
          cases computed'
          rw [followed, followed', (restriction.small_rule listed).1, (restriction.small_rule listed).2]
          have judged := agrees.recordVerdict restriction listed value
          have later : Agrees space selection whole part
              { Scan.recordVerdict whole number value first with clock, ruleTimes := times }
              { Scan.recordVerdict part index value second with
                clock := clock', ruleTimes := times' } :=
            { judged with echo := { judged.echo with } }
          exact ih later restListed restListed' _ _ _ _ _ _
  | @passed instructions codes twins isLeft _ ih =>
      obtain ⟨isListed, restListed⟩ := List.forall_mem_cons.mp inWhole
      obtain ⟨code, number, rfl, bound, absent⟩ := isLeft.exists_code
      have concludes := concludes_of_compilation restriction.gives restriction.numbered
        restriction.literals isListed
      rw [← restriction.gives.sameRules] at bound
      have small : (UInt32.ofNat number).toNat = number :=
        UInt32.toNat_ofNat_of_lt' (Nat.lt_of_lt_of_le bound restriction.fits.rulesFit)
      rw [follow_cons]
      rcases follow_rule_cases concludes agrees.echo.unlimited.1 (codes.flatten.length + (left + 1))
        position (encodeAll (codes.flatten ++ [.halt])) begun timer with
        ⟨error, _, failed⟩ | ⟨value, clock, times, _, _, _, _, followed⟩
      · rw [failed]
        exact .error _ _ _
      · rw [followed, small]
        have judged := agrees.recordVerdict_left restriction bound absent value
        have later : Agrees space selection whole part
            { Scan.recordVerdict whole number value first with clock, ruleTimes := times } second :=
          { judged with echo := { judged.echo with } }
        exact ih later restListed inPart _ _ _ _ _ _

/-! ## Whole evaluations -/

omit restriction in
/-- Before any verdict, two states agree on a namespace if the strings of it have the same matches. -/
theorem Echo.agrees (echo : Echo selection.strings whole part first second)
    (unjudged : Unjudged whole first) (unjudged' : Unjudged part second) :
    Agrees space selection whole part first second where
  echo := echo
  sizesMatched := by
    rw [unjudged.matched, unjudged'.matched, Array.size_replicate, Array.size_replicate]
    exact ⟨rfl, rfl⟩
  sizesUnsatisfied := by
    rw [unjudged.unsatisfied, unjudged'.unsatisfied, Array.size_replicate, Array.size_replicate]
    exact ⟨rfl, rfl⟩
  matched := by
    intro index number _
    rw [Context.ruleMatched, Context.ruleMatched, unjudged.matched, unjudged'.matched,
      getD_replicate, getD_replicate]
  unsatisfied := by
    intro index number _ _
    rw [Context.isUnsatisfied, Context.isUnsatisfied, unjudged.unsatisfied, unjudged'.unsatisfied,
      getD_replicate, getD_replicate]

theorem Agrees.evaluate (agrees : Agrees space selection whole part first second) :
    Leads (fun _ _ => Agrees space selection whole part) (evaluate whole first)
      (evaluate part second) := by
  obtain ⟨left, timer, clock, evaluated⟩ := exists_evaluate_eq restriction.gives first
  obtain ⟨left', timer', clock', evaluated'⟩ := exists_evaluate_eq restriction.gives' second
  rw [evaluated, evaluated']
  have begun : Agrees space selection whole part { first with clock } { second with clock := clock' } :=
    { agrees with echo := { agrees.echo with } }
  exact begun.follow restriction restriction.selected.code (fun _ => id) (fun _ => id) _ _ _ _ _ _ _ _

/-- Where a scan with all rules has its verdicts, so does one with the rules of a namespace, and they
agree on it. -/
theorem gather_agrees {slot : Nat} {flags : ScanFlags} {fileSize : UInt64} {clock : Clock}
    {blocks : List Block}
    (gathered : gather whole blocks (.new whole slot flags fileSize 0 clock) = .ok () first)
    (slot' : Nat) (clock' : Clock) :
    ∃ second, gather part blocks (.new part slot' flags fileSize 0 clock') = .ok () second ∧
      Agrees space selection whole part first second := by
  rw [gather_eq] at gathered
  obtain ⟨_, middle, searched, evaluated⟩ := bind_state_eq_ok gathered
  obtain ⟨middle', searched', echo, unjudged, unjudged'⟩ :=
    search_echoes restriction.excerpt restriction.externals searched slot' clock'
  obtain ⟨_, second, evaluated', agrees⟩ :=
    (echo.agrees unjudged unjudged').evaluate restriction _ _ evaluated
  refine ⟨second, ?_, agrees⟩
  rw [gather_eq, bind_of_ok searched', evaluated']

end Scan

end ByteScan
