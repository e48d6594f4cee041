import ByteScan.Proofs.RuleSet.Compiling
import ByteScan.Proofs.RuleSet.Numbering
import ByteScan.Proofs.Scan.Valuation

/-!
# Verdicts on rules

The code of a compiled rule set is that of its rules one after another. `Judged` is what the state of
a scan is after the code of some rules has been followed: each of them matched if and only if the
value of its condition counts as true, and a namespace is void if a global rule of it did not match.
-/

namespace ByteScan

/-- What the names in the condition of a rule mean during a scan, given the verdicts on rules. -/
def Collection.meaningOf (collection : Collection) (rules : RuleSet) (context : Context)
    (verdict : Nat → Bool) (number : Nat) (space : String) : Meaning :=
  let own := (rules.rules[number]?.map Rule.strings).getD []
  { matchesOf name :=
      match own.find? fun string => rules.strings[string]?.map StringDef.identifier == some name with
      | some string => context.matchesOf string
      | none => []
    ownMatches := own.map context.matchesOf
    verdict name :=
      match earlierRule? collection.rules number space name with
      | some earlier => verdict earlier
      | none => false
    object name := (context.object? name).getD .undefined
    fileSize := context.fileSize
    entryPoint := context.entryPoint }

/-- All numbers that stand in the code of a rule set are words of thirty-two bits. -/
structure RuleSet.FitsWords (rules : RuleSet) : Prop where
  stringsFit : rules.strings.size ≤ UInt32.size
  rulesFit : rules.rules.size ≤ UInt32.size
  externalsFit : rules.externals.length ≤ UInt32.size
  ownFit : ∀ rule ∈ rules.rules, rule.strings.length < UInt32.size

/-- The conditions of a collection can be evaluated on a stack of the given size. -/
structure Collection.Evaluable (collection : Collection) : Prop where
  needs : ∀ entry ∈ collection.rules, entry.2.condition.stackNeed ≤ Scan.stackLimit
  literals : ∀ entry ∈ collection.rules, entry.2.condition.LiteralsFit

namespace Scan

variable {collection : Collection} {compilation : Compilation} {rules : RuleSet}

/-! ## Names in conditions -/

theorem earlierRule?_lt {decls : List (String × RuleDecl)} {number earlier : Nat}
    {space name : String} (found : earlierRule? decls number space name = some earlier) :
    earlier < number ∧ earlier < decls.length := by
  rw [earlierRule?, List.findIdx?_eq_some_iff_getElem] at found
  obtain ⟨within, _⟩ := found
  rw [List.length_take] at within
  omega

theorem find?_eq_lookup {entries : List (String × Nat)}
    (names : ∀ entry ∈ entries, compilation.Names entry) (name : String) :
    (entries.map Prod.snd).find? (fun string =>
        compilation.strings[string]?.map StringDef.identifier == some name) =
      entries.lookup name := by
  induction entries with
  | nil => rfl
  | cons entry entries ih =>
      obtain ⟨isFirst, rest⟩ := List.forall_mem_cons.mp names
      obtain ⟨string, found, same⟩ := isFirst
      obtain ⟨identifier, number⟩ := entry
      rw [List.map_cons, List.find?_cons, List.lookup_cons, found, ih rest]
      simp only [Option.map_some, same]
      by_cases equal : identifier = name
      · subst equal
        simp only [beq_self_eq_true]
      · have other : (name == identifier) = false := beq_eq_false_iff_ne.mpr (Ne.symm equal)
        have others : (some identifier == some name) = false :=
          beq_eq_false_iff_ne.mpr (fun same => equal (Option.some.inj same))
        simp only [other, others]

theorem understands_of_declares (gives : collection.Gives compilation rules)
    (externals : compilation.externals = collection.externals.map External.identifier)
    (fits : rules.FitsWords) {number : Nat} {space : String} {decl : RuleDecl} {rule : Rule}
    {scope : Scope} {instructions : List Instruction}
    (declares : compilation.Declares collection.rules number space decl rule scope instructions)
    (context : Context) :
    Understands rules context scope
      (collection.meaningOf rules context context.ruleMatched number space) := by
  have listed : rules.rules[number]? = some rule := by
    rw [gives.sameRules]
    exact declares.listed
  have within : number < rules.rules.size := (Array.getElem?_eq_some_iff.mp listed).1
  have own : (rules.rules[number]?.map Rule.strings).getD [] = scope.strings.map Prod.snd := by
    rw [listed]
    exact declares.sameStrings
  have rulesFit := fits.rulesFit
  constructor
  case string =>
    intro name string found
    have lookup := find?_eq_lookup declares.names name
    rw [found] at lookup
    have known : string < rules.strings.size := by
      have isString := List.find?_some lookup
      rw [beq_iff_eq, Option.map_eq_some_iff] at isString
      obtain ⟨definition, found, _⟩ := isString
      rw [gives.sameStrings]
      exact (Array.getElem?_eq_some_iff.mp found).1
    have stringsFit := fits.stringsFit
    refine ⟨known, by omega, ?_⟩
    simp only [Collection.meaningOf, own, gives.sameStrings, lookup]
  case owner =>
    rw [declares.sameNumber]
    refine ⟨rule, listed, ?_⟩
    rw [Collection.meaningOf, listed]
    rfl
  case ownCount => simp only [Collection.meaningOf, own, List.length_map]
  case ownerFits =>
    rw [declares.sameNumber]
    omega
  case countFits =>
    have count := fits.ownFit rule (Array.mem_of_getElem? listed)
    rwa [declares.sameStrings, List.length_map] at count
  case earlier =>
    intro name earlier found
    rw [declares.sameEarlier] at found
    have before := earlierRule?_lt found
    refine ⟨by omega, by omega, ?_⟩
    simp only [Collection.meaningOf, found]
  case external =>
    intro name index found
    rw [declares.sameExternals, externals, List.findIdx?_map] at found
    obtain ⟨inside, same, _⟩ := List.findIdx?_eq_some_iff_getElem.mp found
    have externalsFit := fits.externalsFit
    rw [gives.sameExternals] at externalsFit ⊢
    refine ⟨by omega, _, List.getElem?_eq_getElem inside, ?_⟩
    rw [Function.comp_apply, beq_iff_eq] at same
    rw [same]
    rfl
  case fileSize => rfl
  case entryPoint => rfl

/-! ## The verdict on one rule -/

theorem follow_verdict {context : Context} (unlimited : context.timeout = 0) {number : UInt32}
    (known : number.toNat < rules.rules.size) (value : Value) (stack : List Value)
    (left position : Nat) (rest : List UInt8) (begun : Nat) (timer : Option Nanoseconds) :
    ∃ clock times timer',
      follow rules (left + 1)
          ⟨⟨position, (Instruction.verdict number).encode ++ rest⟩, value :: stack, begun, timer⟩
          context =
        follow rules left
          ⟨⟨position + (Instruction.verdict number).encode.length, rest⟩, stack, begun + 1, timer'⟩
          { recordVerdict rules number.toNat value context with clock, ruleTimes := times } := by
  have inRange : (Instruction.verdict number).InRange rules.strings.size rules.rules.size := known
  have taken := CodePlace.takeInstruction_encode inRange rest position
  rw [follow_step unlimited taken]
  cases timer with
  | none => exact ⟨_, _, none, rfl⟩
  | some start => exact ⟨_, _, some _, rfl⟩

/-! ## The verdicts on all rules -/

/-- The state of a scan that began in `start` after the code of the first rules. -/
structure Judged (collection : Collection) (rules : RuleSet) (start : Context) (count : Nat)
    (context : Context) : Prop where
  lists : context.lists = start.lists
  objects : context.objects = start.objects
  fileSize : context.fileSize = start.fileSize
  entryPoint : context.entryPoint = start.entryPoint
  timeout : context.timeout = start.timeout
  sizeMatched : context.matchedRules.size = rules.rules.size
  sizeUnsatisfied : context.unsatisfiedSpaces.size = rules.spaces.size
  matched : ∀ (number : Nat) space decl, number < count →
    collection.rules[number]? = some (space, decl) →
      context.ruleMatched number = (decl.condition.eval
        (collection.meaningOf rules start context.ruleMatched number space)).isTruthy
  open_ : ∀ number, count ≤ number → context.ruleMatched number = false
  unsatisfied : ∀ space, context.isUnsatisfied space = true ↔ ∃ (number : Nat) (rule : Rule),
    number < count ∧ rules.rules[number]? = some rule ∧ rule.isGlobal = true ∧
      rule.space = space ∧ context.ruleMatched number = false

theorem meaningOf_congr {context : Context} {first second : Nat → Bool} {number : Nat}
    (same : ∀ earlier < number, first earlier = second earlier) (space : String) :
    collection.meaningOf rules context first number space =
      collection.meaningOf rules context second number space := by
  have verdict (name : String) :
      (match earlierRule? collection.rules number space name with
        | some earlier => first earlier
        | none => false) =
      (match earlierRule? collection.rules number space name with
        | some earlier => second earlier
        | none => false) := by
    split
    · rename_i earlier found
      exact same earlier (earlierRule?_lt found).1
    · rfl
  simp only [Collection.meaningOf, verdict]

theorem getD_setIfInBounds (items : Array Bool) {number : Nat} (within : number < items.size)
    (other : Nat) :
    (items.setIfInBounds number true).getD other false =
      (decide (number = other) || items.getD other false) := by
  rw [Array.getD_eq_getD_getElem?, Array.getD_eq_getD_getElem?]
  by_cases same : number = other
  · subst same
    rw [Array.getElem?_setIfInBounds_self_of_lt within, decide_eq_true rfl]
    rfl
  · rw [Array.getElem?_setIfInBounds_ne same, decide_eq_false same, Bool.false_or]

section

variable {context : Context} {number : Nat} {rule : Rule}
  (listed : rules.rules[number]? = some rule) (value : Value)
include listed

theorem ruleMatched_recordVerdict (within : number < context.matchedRules.size) (other : Nat) :
    (recordVerdict rules number value context).ruleMatched other =
      (decide (number = other) && value.isTruthy || context.ruleMatched other) := by
  rw [recordVerdict, listed]
  simp only
  split
  · rename_i truthy
    rw [truthy, Bool.and_true]
    exact getD_setIfInBounds _ within other
  · rename_i falsy
    rw [Bool.not_eq_true] at falsy
    rw [falsy, Bool.and_false, Bool.false_or]
    split <;> rfl

theorem isUnsatisfied_recordVerdict (within : rule.space < context.unsatisfiedSpaces.size)
    (space : Nat) :
    (recordVerdict rules number value context).isUnsatisfied space =
      (!value.isTruthy && rule.isGlobal && decide (rule.space = space) ||
        context.isUnsatisfied space) := by
  rw [recordVerdict, listed]
  simp only
  split
  · rename_i truthy
    rw [truthy, Bool.not_true, Bool.false_and, Bool.false_and, Bool.false_or]
    rfl
  · rename_i falsy
    rw [Bool.not_eq_true] at falsy
    rw [falsy, Bool.not_false, Bool.true_and]
    split
    · rename_i isGlobal
      rw [isGlobal, Bool.true_and]
      exact getD_setIfInBounds _ within space
    · rename_i isLocal
      rw [Bool.not_eq_true] at isLocal
      rw [isLocal, Bool.false_and, Bool.false_or]

omit listed in
/-- A verdict changes nothing but the tables of verdicts. -/
theorem recordVerdict_eq (rules : RuleSet) (number : Nat) (value : Value) (context : Context) :
    recordVerdict rules number value context = { context with
      matchedRules := (recordVerdict rules number value context).matchedRules
      unsatisfiedSpaces := (recordVerdict rules number value context).unsatisfiedSpaces } := by
  unfold recordVerdict
  split
  · rfl
  · split
    · split <;> rfl
    · rfl

omit listed in
theorem recordVerdict_rest (rules : RuleSet) (number : Nat) (value : Value) (context : Context) :
    (recordVerdict rules number value context).lists = context.lists ∧
      (recordVerdict rules number value context).objects = context.objects ∧
      (recordVerdict rules number value context).fileSize = context.fileSize ∧
      (recordVerdict rules number value context).entryPoint = context.entryPoint ∧
      (recordVerdict rules number value context).timeout = context.timeout ∧
      (recordVerdict rules number value context).matchedRules.size = context.matchedRules.size ∧
      (recordVerdict rules number value context).unsatisfiedSpaces.size =
        context.unsatisfiedSpaces.size := by
  rw [recordVerdict]
  split
  · exact ⟨rfl, rfl, rfl, rfl, rfl, Array.size_setIfInBounds, rfl⟩
  · split
    · split
      · exact ⟨rfl, rfl, rfl, rfl, rfl, rfl, Array.size_setIfInBounds⟩
      · exact ⟨rfl, rfl, rfl, rfl, rfl, rfl, rfl⟩
    · exact ⟨rfl, rfl, rfl, rfl, rfl, rfl, rfl⟩

end

section

variable {start context : Context} {count : Nat}
  (judged : Judged collection rules start count context)
include judged

theorem Judged.lt_size_matchedRules {rule : Rule} (listed : rules.rules[count]? = some rule) :
    count < context.matchedRules.size := by
  rw [judged.sizeMatched]
  exact (Array.getElem?_eq_some_iff.mp listed).1

theorem Judged.ruleMatched_earlier {rule : Rule} (listed : rules.rules[count]? = some rule)
    (value : Value) {other : Nat} (earlier : other < count) :
    (recordVerdict rules count value context).ruleMatched other = context.ruleMatched other := by
  have within := judged.lt_size_matchedRules listed
  rw [ruleMatched_recordVerdict listed value within, decide_eq_false (by omega), Bool.false_and,
    Bool.false_or]

theorem Judged.ruleMatched_present {rule : Rule} (listed : rules.rules[count]? = some rule)
    (value : Value) :
    (recordVerdict rules count value context).ruleMatched count = value.isTruthy := by
  have within := judged.lt_size_matchedRules listed
  rw [ruleMatched_recordVerdict listed value within, decide_eq_true rfl, Bool.true_and,
    judged.open_ count (Nat.le_refl _), Bool.or_false]

/-- After one more verdict a namespace is void if a global rule of it has not matched so far. -/
theorem Judged.isUnsatisfied_next {rule : Rule} (listed : rules.rules[count]? = some rule)
    (known : rule.space < rules.spaces.size) (value : Value) (space : Nat) :
    (recordVerdict rules count value context).isUnsatisfied space = true ↔
      ∃ (number : Nat) (other : Rule), number < count + 1 ∧ rules.rules[number]? = some other ∧
        other.isGlobal = true ∧ other.space = space ∧
          (recordVerdict rules count value context).ruleMatched number = false := by
  have present := judged.ruleMatched_present listed value
  have before {other : Nat} (earlier : other < count) :=
    judged.ruleMatched_earlier listed value earlier
  have within : rule.space < context.unsatisfiedSpaces.size := by
    rw [judged.sizeUnsatisfied]
    exact known
  rw [isUnsatisfied_recordVerdict listed value within, Bool.or_eq_true, judged.unsatisfied]
  constructor
  · rintro (isPresent | ⟨number, other, earlier, isOther, isGlobal, inSpace, failed⟩)
    · rw [Bool.and_eq_true, Bool.and_eq_true, Bool.not_eq_true', decide_eq_true_eq] at isPresent
      obtain ⟨⟨falsy, isGlobal⟩, inSpace⟩ := isPresent
      exact ⟨count, rule, Nat.lt_succ_self count, listed, isGlobal, inSpace, present.trans falsy⟩
    · exact ⟨number, other, Nat.lt_succ_of_lt earlier, isOther, isGlobal, inSpace,
        (before earlier).trans failed⟩
  · rintro ⟨number, other, within, isOther, isGlobal, inSpace, failed⟩
    rcases Nat.lt_succ_iff_lt_or_eq.mp within with earlier | same
    · exact Or.inr ⟨number, other, earlier, isOther, isGlobal, inSpace,
        (before earlier).symm.trans failed⟩
    · subst same
      rw [listed] at isOther
      cases isOther
      left
      rw [← present, failed, isGlobal, inSpace, decide_eq_true rfl]
      rfl

theorem Judged.step {space : String} {decl : RuleDecl}
    (isDecl : collection.rules[count]? = some (space, decl)) {rule : Rule}
    (listed : rules.rules[count]? = some rule) (known : rule.space < rules.spaces.size)
    (clock : Clock) (times : Array Nanoseconds) :
    Judged collection rules start (count + 1)
      { recordVerdict rules count (decl.condition.eval
          (collection.meaningOf rules start context.ruleMatched count space)) context with
        clock, ruleTimes := times } := by
  generalize isValue : decl.condition.eval
    (collection.meaningOf rules start context.ruleMatched count space) = value
  obtain ⟨lists, objects, fileSize, entryPoint, timeout, sizeMatched, sizeUnsatisfied⟩ :=
    recordVerdict_rest rules count value context
  have before {other : Nat} (earlier : other < count) :=
    judged.ruleMatched_earlier listed value earlier
  refine ⟨lists.trans judged.lists, objects.trans judged.objects,
    fileSize.trans judged.fileSize, entryPoint.trans judged.entryPoint,
    timeout.trans judged.timeout, sizeMatched.trans judged.sizeMatched,
    sizeUnsatisfied.trans judged.sizeUnsatisfied, ?_, ?_, ?_⟩
  · intro number ofSpace other within isOther
    change (recordVerdict rules count value context).ruleMatched number =
      (other.condition.eval (collection.meaningOf rules start
        (recordVerdict rules count value context).ruleMatched number ofSpace)).isTruthy
    rw [meaningOf_congr (fun earlier below => before (by omega))]
    rcases Nat.lt_succ_iff_lt_or_eq.mp within with earlier | same
    · rw [before earlier]
      exact judged.matched number ofSpace other earlier isOther
    · subst same
      rw [isDecl] at isOther
      cases isOther
      rw [judged.ruleMatched_present listed value, isValue]
  · intro number after
    have within := judged.lt_size_matchedRules listed
    change (recordVerdict rules count value context).ruleMatched number = false
    rw [ruleMatched_recordVerdict listed value within, decide_eq_false (by omega), Bool.false_and,
      Bool.false_or]
    exact judged.open_ number (by omega)
  · exact judged.isUnsatisfied_next listed known value

end

/-! ## The code of all rules -/

theorem judged_start {start : Context}
    (matched : start.matchedRules = Array.replicate rules.rules.size false)
    (unsatisfied : start.unsatisfiedSpaces = Array.replicate rules.spaces.size false)
    (clock : Clock) : Judged collection rules start 0 { start with clock } where
  lists := rfl
  objects := rfl
  fileSize := rfl
  entryPoint := rfl
  timeout := rfl
  sizeMatched := by rw [matched, Array.size_replicate]
  sizeUnsatisfied := by rw [unsatisfied, Array.size_replicate]
  matched := fun _ _ _ impossible => absurd impossible (Nat.not_lt_zero _)
  open_ := by
    intro number _
    simp only [Context.ruleMatched, matched, Array.getD_eq_getD_getElem?, Array.getElem?_replicate]
    split <;> rfl
  unsatisfied := by
    intro space
    simp only [Context.isUnsatisfied, unsatisfied, Array.getD_eq_getD_getElem?,
      Array.getElem?_replicate]
    constructor
    · intro impossible
      split at impossible <;> cases impossible
    · rintro ⟨number, rule, impossible, _⟩
      exact absurd impossible (Nat.not_lt_zero _)

theorem Judged.matchesOf_eq {start context : Context} {count : Nat}
    (judged : Judged collection rules start count context) :
    context.matchesOf = start.matchesOf := by
  funext string
  rw [Context.matchesOf, Context.matchesOf, judged.lists]

theorem Judged.meaningOf_eq {start context : Context} {count : Nat}
    (judged : Judged collection rules start count context) (verdict : Nat → Bool) (number : Nat)
    (space : String) :
    collection.meaningOf rules context verdict number space =
      collection.meaningOf rules start verdict number space := by
  simp only [Collection.meaningOf, judged.matchesOf_eq, Context.object?, judged.objects,
    judged.fileSize, judged.entryPoint]

/-- The code of a rule is that of its condition and the verdict, and the machine finds what the names
in the condition mean. -/
structure Prepared (collection : Collection) (rules : RuleSet) (context : Context)
    (number : Nat) (space : String) (decl : RuleDecl) (rule : Rule) (scope : Scope)
    (code instructions : List Instruction) : Prop where
  listed : rules.rules[number]? = some rule
  inSpace : rule.space < rules.spaces.size
  small : (UInt32.ofNat number).toNat = number
  compiled : decl.condition.code scope = .ok code
  whole : instructions = code ++ [.verdict (UInt32.ofNat number)]
  understands : Understands rules context scope
    (collection.meaningOf rules context context.ruleMatched number space)

section

variable (gives : collection.Gives compilation rules)
  (numbered : compilation.Numbered collection.rules)
  (externals : compilation.externals = collection.externals.map External.identifier)
  (fits : rules.FitsWords)
include gives numbered externals fits

theorem exists_prepared (context : Context) {number : Nat} {space : String} {decl : RuleDecl}
    (isDecl : collection.rules[number]? = some (space, decl)) {instructions : List Instruction}
    (coded : compilation.code.reverse[number]? = some instructions) :
    ∃ rule scope code,
      Prepared collection rules context number space decl rule scope code instructions := by
  obtain ⟨rule, scope, own, declares⟩ := numbered.each number space decl isDecl
  obtain rfl : own = instructions := Option.some.inj (declares.coded.symm.trans coded)
  have listed : rules.rules[number]? = some rule := by
    rw [gives.sameRules]
    exact declares.listed
  have within : number < rules.rules.size := (Array.getElem?_eq_some_iff.mp listed).1
  obtain ⟨code, isCode, same⟩ := bind_eq_ok declares.compiled
  refine ⟨rule, scope, code, ?_⟩
  constructor
  case listed => exact listed
  case inSpace =>
    rw [gives.sameSpaces]
    exact (Array.getElem?_eq_some_iff.mp declares.inSpace).1
  case small => exact UInt32.toNat_ofNat_of_lt' (Nat.lt_of_lt_of_le within fits.rulesFit)
  case compiled => exact isCode
  case whole =>
    rw [← declares.sameNumber]
    exact (Except.ok.inj same).symm
  case understands => exact understands_of_declares gives externals fits declares context

end

section

variable (gives : collection.Gives compilation rules)
  (numbered : compilation.Numbered collection.rules)
  (externals : compilation.externals = collection.externals.map External.identifier)
  (fits : rules.FitsWords) {start : Context} (unlimited : start.timeout = 0)
  (addresses : AddressesFit start)
include gives numbered externals fits unlimited addresses

/-- The code of one rule leads to the verdict on it. -/
theorem follow_rule {context : Context} {count : Nat}
    (judged : Judged collection rules start count context) {space : String} {decl : RuleDecl}
    (isDecl : collection.rules[count]? = some (space, decl))
    (need : decl.condition.stackNeed ≤ stackLimit) (literals : decl.condition.LiteralsFit)
    {instructions : List Instruction}
    (coded : compilation.code.reverse[count]? = some instructions)
    (left position : Nat) (rest : List UInt8) (begun : Nat) (timer : Option Nanoseconds) :
    ∃ after timer', Judged collection rules start (count + 1) after ∧
      follow rules (instructions.length + left)
          ⟨⟨position, encodeAll instructions ++ rest⟩, [], begun, timer⟩ context =
        follow rules left
          ⟨⟨position + (encodeAll instructions).length, rest⟩, [], begun + instructions.length,
            timer'⟩ after := by
  obtain ⟨rule, scope, code, listed, inSpace, small, compiled, rfl, understands⟩ :=
    exists_prepared gives numbered externals fits context isDecl coded
  have within : count < rules.rules.size := (Array.getElem?_eq_some_iff.mp listed).1
  have unlimited' : context.timeout = 0 := judged.timeout.trans unlimited
  rw [judged.meaningOf_eq] at understands
  have addresses' : AddressesFit context := by
    rw [AddressesFit, judged.matchesOf_eq]
    exact addresses
  have pushed : Pushes rules context code [] _ :=
    (runs_pushes unlimited' addresses').eval understands compiled literals
      (by rwa [List.length_nil, Nat.zero_add])
  obtain ⟨clock, times, timer', followed⟩ := follow_verdict unlimited' (small.symm ▸ within)
    (decl.condition.eval (collection.meaningOf rules start context.ruleMatched count space)) []
    left (position + (encodeAll code).length) rest (begun + code.length) timer
  refine ⟨_, timer', judged.step isDecl listed inSpace clock times, ?_⟩
  rw [List.length_append, List.length_singleton, encodeAll_append, encodeAll_singleton,
    List.append_assoc, Nat.add_assoc, Nat.add_comm 1 left, pushed, followed, small,
    List.length_append, Nat.add_assoc, Nat.add_assoc]

/-- The code of the rules that are left leads to the verdicts on all rules. -/
theorem follow_rules (evaluable : collection.Evaluable) {codes : List (List Instruction)}
    {count : Nat} (within : count ≤ collection.rules.length)
    (rest : compilation.code.reverse.drop count = codes) {context : Context}
    (judged : Judged collection rules start count context) (left position begun : Nat)
    (timer : Option Nanoseconds) :
    ∃ after, Judged collection rules start collection.rules.length after ∧
      follow rules (codes.flatten.length + (left + 1))
        ⟨⟨position, encodeAll (codes.flatten ++ [.halt])⟩, [], begun, timer⟩ context =
          .ok () after := by
  have codeCount : compilation.code.reverse.length = collection.rules.length := by
    rw [List.length_reverse, numbered.codes]
  induction codes generalizing count context position begun timer with
  | nil =>
      have all : collection.rules.length ≤ count := by
        rw [← codeCount]
        exact List.drop_eq_nil_iff.mp rest
      refine ⟨context, Nat.le_antisymm within all ▸ judged, ?_⟩
      rw [List.flatten_nil, List.length_nil, Nat.zero_add,
        follow_step (judged.timeout.trans unlimited) rfl]
      rfl
  | cons code codes ih =>
      have coded : compilation.code.reverse[count]? = some code := by
        rw [← List.head?_drop, rest]
        rfl
      have rest' : compilation.code.reverse.drop (count + 1) = codes := by
        rw [← List.tail_drop, rest]
        rfl
      have inCode := (List.getElem?_eq_some_iff.mp coded).1
      have inRules : count < collection.rules.length := codeCount ▸ inCode
      have isDecl := List.getElem?_eq_getElem inRules
      have member := List.getElem_mem inRules
      obtain ⟨after, timer', judged', followed⟩ := follow_rule gives numbered externals fits
        unlimited addresses judged isDecl (evaluable.needs _ member)
        (evaluable.literals _ member) coded (codes.flatten.length + (left + 1)) position
        (encodeAll (codes.flatten ++ [.halt])) begun timer
      obtain ⟨final, judged'', followed'⟩ := ih inRules rest' judged'
        (position + (encodeAll code).length) (begun + code.length) timer'
      refine ⟨final, judged'', ?_⟩
      rw [List.flatten_cons, List.length_append, Nat.add_assoc, List.append_assoc,
        encodeAll_append, followed, followed']

end

theorem length_le_encodeAll (instructions : List Instruction) :
    instructions.length ≤ (encodeAll instructions).length := by
  induction instructions with
  | nil => exact Nat.le_refl _
  | cons instruction instructions ih =>
      have positive := List.length_pos_iff.mpr (CodePlace.encode_ne_nil instruction)
      have whole : encodeAll (instruction :: instructions) =
          instruction.encode ++ encodeAll instructions := List.flatMap_cons
      rw [whole, List.length_cons, List.length_append]
      omega

/-- A namespace is void where the condition of a global rule of it does not count as true. -/
theorem Judged.isUnsatisfied_iff (gives : collection.Gives compilation rules)
    (numbered : compilation.Numbered collection.rules) {start after : Context}
    (judged : Judged collection rules start collection.rules.length after) {number : Nat}
    {space : String} (isSpace : rules.spaces[number]? = some space) :
    after.isUnsatisfied number = true ↔ ∃ (rule : Nat) (decl : RuleDecl),
      collection.rules[rule]? = some (space, decl) ∧ decl.isGlobal = true ∧
        (decl.condition.eval
          (collection.meaningOf rules start after.ruleMatched rule space)).isTruthy = false := by
  rw [gives.sameSpaces] at isSpace
  rw [judged.unsatisfied]
  constructor
  · rintro ⟨ruleNumber, rule, within, listed, isGlobal, inSpace, failed⟩
    obtain ⟨⟨ofSpace, decl⟩, isDecl⟩ : ∃ entry, collection.rules[ruleNumber]? = some entry :=
      ⟨_, List.getElem?_eq_getElem within⟩
    obtain ⟨declared, scope, instructions, declares⟩ :=
      numbered.each ruleNumber ofSpace decl isDecl
    rw [gives.sameRules, declares.listed] at listed
    cases listed
    have named := declares.inSpace
    rw [inSpace, isSpace] at named
    cases named
    refine ⟨ruleNumber, decl, isDecl, declares.sameGlobal.symm.trans isGlobal, ?_⟩
    rw [← judged.matched ruleNumber space decl within isDecl]
    exact failed
  · rintro ⟨ruleNumber, decl, isDecl, isGlobal, failed⟩
    have within := (List.getElem?_eq_some_iff.mp isDecl).1
    obtain ⟨rule, scope, instructions, declares⟩ := numbered.each ruleNumber space decl isDecl
    refine ⟨ruleNumber, rule, within, ?_, declares.sameGlobal.trans isGlobal, ?_, ?_⟩
    · rw [gives.sameRules]
      exact declares.listed
    · exact (Compilation.space_eq_iff numbered.distinct declares.inSpace isSpace).mpr rfl
    · rw [judged.matched ruleNumber space decl within isDecl]
      exact failed

theorem exists_evaluate_eq (gives : collection.Gives compilation rules) (context : Context) :
    ∃ left timer clock, evaluate rules context =
      follow rules (compilation.code.reverse.flatten.length + (left + 1))
        ⟨⟨0, encodeAll (compilation.code.reverse.flatten ++ [.halt])⟩, [], 0, timer⟩
        { context with clock } := by
  have enough := length_le_encodeAll (compilation.code.reverse.flatten ++ [.halt])
  rw [List.length_append, List.length_singleton] at enough
  obtain ⟨left, fuel⟩ : ∃ left,
      (encodeAll (compilation.code.reverse.flatten ++ [.halt])).length + 1 =
        compilation.code.reverse.flatten.length + (left + 1) :=
    ⟨(encodeAll (compilation.code.reverse.flatten ++ [.halt])).length -
      compilation.code.reverse.flatten.length, by omega⟩
  refine ⟨left, ?_⟩
  rw [evaluate_eq, gives.start, List.drop_zero, gives.sameCode, fuel, beginning]
  split
  · exact ⟨_, context.clock.look.2, rfl⟩
  · exact ⟨none, context.clock, rfl⟩

/-- Where no match lies beyond all addresses, conditions are evaluated, and they give the verdicts. -/
theorem evaluate_judged (compiled : collection.compile = .ok rules) (fits : rules.FitsWords)
    (evaluable : collection.Evaluable) {start : Context}
    (matched : start.matchedRules = Array.replicate rules.rules.size false)
    (unsatisfied : start.unsatisfiedSpaces = Array.replicate rules.spaces.size false)
    (unlimited : start.timeout = 0) (addresses : AddressesFit start) :
    ∃ after, evaluate rules start = .ok () after ∧
      Judged collection rules start collection.rules.length after := by
  obtain ⟨_, compilation, isCompilation, gives⟩ := Collection.compile_eq_ok compiled
  obtain ⟨numbered, externals⟩ :=
    (Compilation.numbered_start (collection.externals.map External.identifier)).addRules
      isCompilation
  rw [List.nil_append] at numbered
  obtain ⟨left, timer, clock, evaluated⟩ := exists_evaluate_eq gives start
  obtain ⟨after, judged, ended⟩ := follow_rules gives numbered externals fits unlimited addresses
    evaluable (Nat.zero_le _) List.drop_zero (judged_start matched unsatisfied clock) left 0 0 timer
  exact ⟨after, evaluated.trans ended, judged⟩

/-- The code of a compiled rule set gives each rule the verdict that its condition deserves, voids
the namespaces of global rules that did not match, and changes nothing else. -/
theorem evaluate_exact (compiled : collection.compile = .ok rules) (fits : rules.FitsWords)
    (evaluable : collection.Evaluable) (start : Context)
    (matched : start.matchedRules = Array.replicate rules.rules.size false)
    (unsatisfied : start.unsatisfiedSpaces = Array.replicate rules.spaces.size false)
    (unlimited : start.timeout = 0) (addresses : AddressesFit start) :
    ∃ after, evaluate rules start = .ok () after ∧
      (∀ (number : Nat) space decl, collection.rules[number]? = some (space, decl) →
        after.ruleMatched number = (decl.condition.eval
          (collection.meaningOf rules start after.ruleMatched number space)).isTruthy) ∧
      (∀ (number : Nat) space, rules.spaces[number]? = some space →
        (after.isUnsatisfied number = true ↔ ∃ (rule : Nat) (decl : RuleDecl),
          collection.rules[rule]? = some (space, decl) ∧ decl.isGlobal = true ∧
            (decl.condition.eval
              (collection.meaningOf rules start after.ruleMatched rule space)).isTruthy =
                false)) ∧
      after.lists = start.lists ∧ after.objects = start.objects ∧
      after.fileSize = start.fileSize ∧ after.entryPoint = start.entryPoint := by
  obtain ⟨_, compilation, isCompilation, gives⟩ := Collection.compile_eq_ok compiled
  obtain ⟨numbered, _⟩ :=
    (Compilation.numbered_start (collection.externals.map External.identifier)).addRules
      isCompilation
  rw [List.nil_append] at numbered
  obtain ⟨after, ended, judged⟩ :=
    evaluate_judged compiled fits evaluable matched unsatisfied unlimited addresses
  exact ⟨after, ended, fun number space decl isDecl =>
      judged.matched number space decl (List.getElem?_eq_some_iff.mp isDecl).1 isDecl,
    fun number space => judged.isUnsatisfied_iff gives numbered,
    judged.lists, judged.objects, judged.fileSize, judged.entryPoint⟩

/-- A global rule that does not match voids its namespace, and a rule that asks for the opposite of
it matches. -/
theorem evaluate_exact_global :
    let large : RuleDecl :=
      ⟨"large", none, false, true, [], [], .compare .greaterThan .fileSize (.integer 5)⟩
    let small : RuleDecl := ⟨"small", none, false, false, [], [], .not (.rule "large")⟩
    ∃ rules, ({ rules := [("default", large), ("default", small)] } : Collection).compile =
        .ok rules ∧
      ∃ after, evaluate rules (Context.new rules 0 { } 3 0 default) = .ok () after ∧
        after.ruleMatched 0 = false ∧ after.ruleMatched 1 = true ∧
        after.isUnsatisfied 0 = true := by
  intro large small
  have same : ({ rules := [("default", large), ("default", small)] } : Collection).compilation =
      .ok ⟨#["default"],
        #[⟨"large", 0, false, true, [], []⟩, ⟨"small", 0, false, false, [], []⟩], #[],
        [[.rule 0, .not, .verdict 1],
          [.fileSize, .pushInteger 5, .compare .greaterThan, .verdict 0]], []⟩ := by with_unfolding_all rfl
  have fits : (Automaton.tablesOf (signsOf []) 0).cells.size ≤ Automaton.tableLimit :=
    (Automaton.size_cells_le _ _).trans (by decide)
  obtain ⟨rules, compiled, gives⟩ := Collection.compile_ok rfl same fits
  have noMatches (string : Nat) :
      (Context.new rules 0 { } 3 0 default).matchesOf string = [] := by
    rw [Context.matchesOf, Context.new, gives.sameStrings]
    rfl
  obtain ⟨after, ended, matched, unsatisfied, _⟩ := evaluate_exact compiled
    ⟨by rw [gives.sameStrings]; decide, by rw [gives.sameRules]; decide,
      by rw [gives.sameExternals]; decide, by rw [gives.sameRules]; decide⟩
    ⟨by decide, by simp [large, small, Condition.LiteralsFit]⟩
    (Context.new rules 0 { } 3 0 default) rfl rfl rfl (by
      intro string found listed
      rw [noMatches] at listed
      cases listed)
  have isLarge : after.ruleMatched 0 = false := matched 0 "default" large rfl
  have isSmall : after.ruleMatched 1 = !after.ruleMatched 0 := matched 1 "default" small rfl
  refine ⟨rules, compiled, after, ended, isLarge, by rw [isSmall, isLarge]; rfl, ?_⟩
  exact (unsatisfied 0 "default" (by rw [gives.sameSpaces]; rfl)).mpr ⟨0, large, rfl, rfl, rfl⟩

end Scan

end ByteScan
