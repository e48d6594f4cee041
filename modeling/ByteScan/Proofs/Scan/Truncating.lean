import ByteScan.Proofs.Scan.Echoing
import ByteScan.Proofs.Scan.Tracking

/-!
# Fast mode

In fast mode a scan records one match of each string and then looks at this string no more. Side by side
with a scan that records all matches it counts the same candidates, and has the first record of every
list: `Truncated`. Only conditions that ask for more than whether a string was found can tell the
difference (`survey_truncated`).
-/

namespace ByteScan

def Instruction.asksDetails : Instruction → Bool
  | .count _ | .foundAt _ | .foundIn _ => true
  | _ => false

def Condition.asksDetails : Condition → Bool
  | .count _ | .foundAt _ _ | .foundIn _ _ _ => true
  | .not inner => inner.asksDetails
  | .and left right | .or left right | .compare _ left right | .contains left right =>
    left.asksDetails || right.asksDetails
  | _ => false

namespace Scan

variable {rules : RuleSet} {first second : Context}

/-! ## Blocks -/

/-- A scan that records all matches, and one that records the first match of each string. -/
structure Truncated (rules : RuleSet) (first second : Context) : Prop where
  thorough : first.flags.fastMode = false
  flags : second.flags = { first.flags with fastMode := true }
  unlimited : first.timeout = 0 ∧ second.timeout = 0
  sizes : first.lists.size = rules.strings.size ∧ second.lists.size = rules.strings.size
  found : ∀ string, second.matchesOf string = (first.matchesOf string).take 1
  /-- A place is remembered only together with a match. -/
  remembered : ∀ string base offset, first.matchesOf string = [] →
    first.isRecorded string base offset = false ∧ second.isRecorded string base offset = false
  total : second.total ≤ first.total
  fileSize : second.fileSize = first.fileSize
  entryPoint : second.entryPoint = first.entryPoint
  objects : second.objects = first.objects
  matched : second.matchedRules = first.matchedRules
  unsatisfied : second.unsatisfiedSpaces = first.unsatisfiedSpaces

def withMatch (rules : RuleSet) (string : Nat) (block : Block) (offset : Nat) (found : Match)
    (registry : Arena Nat) (context : Context) : Context :=
  { context with
    lists := (context.append string found).lists
    registry
    total := context.total + 1
    recorded := (remember rules string block offset context).recorded }

section

variable (string : Nat) (block : Block) (offset : Nat) (found : Match) (registry : Arena Nat)

theorem addMatch_remember (rules : RuleSet) (context : Context) : ∃ registry,
    Context.addMatch string found (remember rules string block offset context) =
      if context.hasRoom string then
        .ok () (withMatch rules string block offset found registry context)
      else .error .insufficientMemory (remember rules string block offset context) := by
  have room : (remember rules string block offset context).hasRoom string = context.hasRoom string := by
    rw [remember_eq]
    rfl
  rw [Context.addMatch, room, remember_eq]
  cases context.hasRoom string with
  | false => exact ⟨default, rfl⟩
  | true =>
      by_cases isFirst : context.matchCount string = 0
      · exact ⟨_, if_pos isFirst⟩
      · exact ⟨context.registry, if_neg isFirst⟩

variable {string}

theorem matchesOf_withMatch_same (known : string < first.lists.size) :
    (withMatch rules string block offset found registry first).matchesOf string =
      first.matchesOf string ++ [found] :=
  Context.matchesOf_append_same first found known

variable {other : Nat} (different : string ≠ other)
include different

theorem matchesOf_withMatch_other :
    (withMatch rules string block offset found registry first).matchesOf other =
      first.matchesOf other :=
  Context.matchesOf_append_other first found different

theorem isRecorded_withMatch_other (base : UInt64) (place : Nat) :
    (withMatch rules string block offset found registry first).isRecorded other base place =
      first.isRecorded other base place := by
  change (remember rules string block offset first).isRecorded other base place = _
  unfold remember
  split
  · simp [Context.isRecorded, Context.markRecorded, Std.HashSet.contains_insert, different]
  · rfl

end

theorem isKnown_of_none {string : Nat} (none : first.matchesOf string = [])
    (unremembered : ∀ base offset, first.isRecorded string base offset = false) (block : Block)
    (offset : Nat) : isKnown rules first string block offset = false := by
  rw [isKnown, Context.lastMatch?_eq, none, unremembered]
  split <;> rfl

namespace Truncated

variable (truncated : Truncated rules first second)
include truncated

theorem settled_first (string : Nat) : isSettled first string = false := by
  rw [isSettled, truncated.thorough, Bool.false_and]

theorem settled_second (string : Nat) :
    isSettled second string = decide (first.matchesOf string ≠ []) := by
  rw [isSettled, truncated.flags, ← Context.length_matchesOf, truncated.found, Bool.true_and,
    decide_eq_decide, List.length_pos_iff, ne_eq, List.take_eq_nil_iff]
  simp

section

variable {string : Nat} (known : string < rules.strings.size) (block : Block) (offset : Nat)
  (found : Match) (registry registry' : Arena Nat)
include known

theorem record_first (some : first.matchesOf string ≠ []) :
    Truncated rules (withMatch rules string block offset found registry first) second := by
  have same : (withMatch rules string block offset found registry first).matchesOf string =
      first.matchesOf string ++ [found] :=
    matchesOf_withMatch_same block offset found registry (truncated.sizes.1 ▸ known)
  refine { truncated with sizes := ?_, found := ?_, remembered := ?_, total := ?_ }
  · exact ⟨Array.size_modify.trans truncated.sizes.1, truncated.sizes.2⟩
  · intro other
    by_cases isString : string = other
    · subst isString
      rw [truncated.found, same, List.take_append_of_le_length (List.length_pos_iff.mpr some)]
    · rw [truncated.found, matchesOf_withMatch_other block offset found registry isString]
  · intro other base place none
    -- the string itself has matches now, so nothing is asked of its places
    by_cases isString : string = other
    · subst isString
      rw [same] at none
      exact absurd (List.append_eq_nil_iff.mp none).1 some
    · rw [matchesOf_withMatch_other block offset found registry isString] at none
      rw [isRecorded_withMatch_other block offset found registry isString]
      exact truncated.remembered other base place none
  · exact Nat.le_succ_of_le truncated.total

theorem record_both (none : first.matchesOf string = []) :
    Truncated rules (withMatch rules string block offset found registry first)
      (withMatch rules string block offset found registry' second) := by
  have same : (withMatch rules string block offset found registry first).matchesOf string =
      first.matchesOf string ++ [found] :=
    matchesOf_withMatch_same block offset found registry (truncated.sizes.1 ▸ known)
  have same' : (withMatch rules string block offset found registry' second).matchesOf string =
      second.matchesOf string ++ [found] :=
    matchesOf_withMatch_same block offset found registry' (truncated.sizes.2 ▸ known)
  refine { truncated with sizes := ?_, found := ?_, remembered := ?_, total := ?_ }
  · exact ⟨Array.size_modify.trans truncated.sizes.1, Array.size_modify.trans truncated.sizes.2⟩
  · intro other
    by_cases isString : string = other
    · subst isString
      rw [same, same', truncated.found, none]
      rfl
    · rw [matchesOf_withMatch_other block offset found registry isString,
        matchesOf_withMatch_other block offset found registry' isString, truncated.found]
  · intro other base place none
    by_cases isString : string = other
    · subst isString
      rw [same] at none
      exact absurd none (List.concat_ne_nil _ _)
    · rw [matchesOf_withMatch_other block offset found registry isString] at none
      rw [isRecorded_withMatch_other block offset found registry isString,
        isRecorded_withMatch_other block offset found registry' isString]
      exact truncated.remembered other base place none
  · exact Nat.succ_le_succ truncated.total

end

theorem hasRoom_second {string : Nat} (none : first.matchesOf string = [])
    (room : first.hasRoom string = true) : second.hasRoom string = true := by
  rw [Context.hasRoom, Bool.and_eq_true, decide_eq_true_eq, decide_eq_true_eq] at room ⊢
  rw [← Context.length_matchesOf, truncated.found, none]
  exact ⟨by decide, Nat.lt_of_le_of_lt truncated.total room.2⟩

section

variable {string : Nat} (known : string < rules.strings.size) (block : Block) (offset : Nat)
  (found : Match)
include known

theorem addMatch_first (some : first.matchesOf string ≠ []) :
    Tracks (fun _ => True) (fun _ _ => Truncated rules)
      (Context.addMatch string found (remember rules string block offset first))
      (.ok () second) := by
  obtain ⟨registry, ended⟩ := addMatch_remember string block offset found rules first
  rw [ended]
  split
  · exact truncated.record_first known block offset found registry some
  · exact .excuse trivial _ _

theorem addMatch_both (none : first.matchesOf string = []) :
    Tracks (fun _ => True) (fun _ _ => Truncated rules)
      (Context.addMatch string found (remember rules string block offset first))
      (Context.addMatch string found (remember rules string block offset second)) := by
  obtain ⟨registry, ended⟩ := addMatch_remember string block offset found rules first
  obtain ⟨registry', ended'⟩ := addMatch_remember string block offset found rules second
  rw [ended, ended']
  split
  · rename_i room
    rw [if_pos (truncated.hasRoom_second none room)]
    exact truncated.record_both known block offset found registry registry' none
  · exact .excuse trivial _ _

end

theorem confirm (number : Nat) (block : Block) (offset : Nat) :
    Tracks (fun _ => True) (fun _ _ => Truncated rules) (confirm rules number block offset first)
      (confirm rules number block offset second) := by
  unfold Scan.confirm
  cases isString : rules.strings[number]? with
  | none => exact .inl trivial
  | some string =>
      have known : number < rules.strings.size := (Array.getElem?_eq_some_iff.mp isString).1
      dsimp only
      rw [truncated.settled_first, truncated.settled_second, Bool.false_or]
      by_cases none : first.matchesOf number = []
      · have none' : second.matchesOf number = [] := by
          rw [truncated.found, none]
          rfl
        rw [isKnown_of_none none fun base place => (truncated.remembered number base place none).1,
          isKnown_of_none none' fun base place => (truncated.remembered number base place none).2,
          Bool.or_false, if_neg Bool.false_ne_true, if_neg (by simpa using none)]
        cases string.matchLength? block.data offset with
        | none => exact truncated
        | some length => exact truncated.addMatch_both known block offset _ none
      · rw [decide_eq_true none, Bool.true_or, if_pos rfl]
        split
        · exact truncated
        · cases string.matchLength? block.data offset with
          | none => exact truncated
          | some length => exact truncated.addMatch_first known block offset _ none

end Truncated

theorem steps_truncated (rules : RuleSet) : Steps rules (fun _ => True) (Truncated rules) where
  confirm := fun block offset truncated _ => truncated.confirm _ block offset
  deadline := fun truncated => by
    rw [checkDeadline_unlimited truncated.unlimited.1, checkDeadline_unlimited truncated.unlimited.2]
    exact truncated
  looked := fun truncated => { truncated with }
  charged := fun _ _ _ truncated => { truncated with }
  profile := fun truncated => by rw [truncated.flags]
  detected := fun {first second} block truncated => by
    have same : blockEntryPoint second.flags block = blockEntryPoint first.flags block := by
      rw [truncated.flags]
      rfl
    unfold detectEntryPoint
    rw [truncated.entryPoint, same]
    split
    · exact truncated
    · split
      · exact { truncated with entryPoint := rfl }
      · exact truncated

/-- What a scan does before it evaluates conditions; gives the number of candidates of each block. -/
def survey (rules : RuleSet) (blocks : List Block) : ScanM (List Nat) := do
  Context.bindExternals rules.externals
  Context.startClock
  tally rules blocks

theorem gather_eq_survey (rules : RuleSet) (blocks : List Block) :
    gather rules blocks = survey rules blocks >>= fun _ => evaluate rules := by
  simp only [gather, survey, scanBlocks_eq_tally, discard_eq, bind_assoc, pure_bind]

theorem survey_begun {blocks : List Block} {counts : List Nat} {after : Context}
    (reached : survey rules blocks first = .ok counts after) :
    ∃ objects, ∀ other : Context, other.objects = first.objects →
      survey rules blocks other = tally rules blocks (begun objects other) := by
  obtain ⟨_, bound, binding, _⟩ := bind_state_eq_ok reached
  obtain ⟨objects, others⟩ := bindExternals_eq_ok binding
  refine ⟨objects, fun other same => ?_⟩
  rw [survey, bind_of_ok (others other same)]
  rfl

theorem truncated_start (objects : List (String × Value)) (slot slot' : Nat) {flags : ScanFlags}
    (thorough : flags.fastMode = false) (fileSize : UInt64) (clock clock' : Clock) :
    Truncated rules (start rules objects slot flags fileSize 0 clock)
      (start rules objects slot' { flags with fastMode := true } fileSize 0 clock') where
  thorough := thorough
  flags := rfl
  unlimited := ⟨rfl, rfl⟩
  sizes := ⟨Array.size_replicate, Array.size_replicate⟩
  found := fun string => by rw [matchesOf_started, matchesOf_started, List.take_nil]
  remembered := fun _ _ _ _ => ⟨Std.HashSet.contains_empty, Std.HashSet.contains_empty⟩
  total := Nat.le_refl _
  fileSize := rfl
  entryPoint := rfl
  objects := rfl
  matched := rfl
  unsatisfied := rfl

/-! ## Conditions -/

structure FoundAlike (first second : Context) : Prop where
  profile : second.flags.profile = first.flags.profile
  unlimited : first.timeout = 0 ∧ second.timeout = 0
  found : ∀ string, 0 < second.matchCount string ↔ 0 < first.matchCount string
  fileSize : second.fileSize = first.fileSize
  entryPoint : second.entryPoint = first.entryPoint
  objects : second.objects = first.objects
  matched : second.matchedRules = first.matchedRules
  unsatisfied : second.unsatisfiedSpaces = first.unsatisfiedSpaces

theorem Truncated.foundAlike (truncated : Truncated rules first second) : FoundAlike first second where
  profile := by rw [truncated.flags]
  unlimited := truncated.unlimited
  found := fun string => by
    rw [← Context.length_matchesOf, ← Context.length_matchesOf, truncated.found, List.length_take]
    omega
  fileSize := truncated.fileSize
  entryPoint := truncated.entryPoint
  objects := truncated.objects
  matched := truncated.matched
  unsatisfied := truncated.unsatisfied

theorem FoundAlike.valueOf_eq (alike : FoundAlike first second) {instruction : Instruction}
    (plain : instruction.asksDetails = false) (stack : List Value) :
    valueOf rules second stack instruction = valueOf rules first stack instruction := by
  have count (rule : Option Rule) : countFound second rule = countFound first rule := by
    cases rule with
    | none => rfl
    | some rule => simp only [countFound, alike.found]
  cases instruction with
  | count string => cases plain
  | foundAt string => cases plain
  | foundIn string => cases plain
  | found string => simp only [valueOf, alike.found]
  | ofThem rule minimum => simp only [valueOf, count]
  | fileSize => simp only [valueOf, alike.fileSize]
  | entryPoint => simp only [valueOf, alike.entryPoint]
  | rule rule => simp only [valueOf, Context.ruleMatched, alike.matched]
  | external index => simp only [valueOf, Context.object?, alike.objects]
  | _ => rfl

theorem FoundAlike.recordVerdict (alike : FoundAlike first second) (number : Nat) (value : Value) :
    FoundAlike (recordVerdict rules number value first) (recordVerdict rules number value second) := by
  unfold Scan.recordVerdict
  split
  · refine { alike with matched := ?_ }
    simp only [Context.setRuleMatched, alike.matched]
  · split
    · split
      · refine { alike with unsatisfied := ?_ }
        simp only [Context.setUnsatisfied, alike.unsatisfied]
      · exact alike
    · exact alike

theorem follows_foundAlike (rules : RuleSet) :
    Follows rules (fun _ => False) (fun instruction => instruction.asksDetails = false) FoundAlike where
  value := fun stack alike plain => alike.valueOf_eq plain stack
  verdict := fun number value alike => alike.recordVerdict number value
  deadline := fun alike => by
    rw [checkDeadline_unlimited alike.unlimited.1, checkDeadline_unlimited alike.unlimited.2]
    exact alike
  looked := fun alike => { alike with }
  charged := fun _ _ _ alike => { alike with }
  profile := FoundAlike.profile

theorem FoundAlike.isMatching_eq (alike : FoundAlike first second) (number : Nat) (rule : Rule) :
    isMatching second number rule = isMatching first number rule := by
  rw [isMatching, Context.ruleMatched, alike.matched, Context.isUnsatisfied, alike.unsatisfied]
  rfl

theorem asksDetails_of_code {condition : Condition} {scope : Scope} {code : List Instruction}
    (compiled : condition.code scope = .ok code) (plain : condition.asksDetails = false) :
    ∀ instruction ∈ code, instruction.asksDetails = false := by
  induction condition generalizing code with
  | truth value | integer value | float value | text value | fileSize | entryPoint =>
      cases compiled
      exact List.forall_mem_singleton.mpr rfl
  | count name => cases plain
  | foundAt name address => cases plain
  | foundIn name low high => cases plain
  | found name =>
      obtain ⟨string, _, same⟩ := bind_eq_ok compiled
      cases same
      exact List.forall_mem_singleton.mpr rfl
  | anyOfThem | allOfThem | ofThem minimum =>
      change scope.ofThem _ = .ok code at compiled
      rw [Scope.ofThem] at compiled
      split at compiled
      · cases compiled
      · cases compiled
        exact List.forall_mem_singleton.mpr rfl
  | rule name | external name =>
      obtain ⟨number, _, same⟩ := bind_eq_ok compiled
      cases same
      exact List.forall_mem_singleton.mpr rfl
  | not inner ih =>
      obtain ⟨inner, isInner, same⟩ := bind_eq_ok compiled
      cases same
      exact List.forall_mem_append.mpr ⟨ih isInner plain, List.forall_mem_singleton.mpr rfl⟩
  | and left right ihLeft ihRight | or left right ihLeft ihRight
  | compare comparison left right ihLeft ihRight | contains left right ihLeft ihRight =>
      obtain ⟨plainLeft, plainRight⟩ := Bool.or_eq_false_iff.mp plain
      obtain ⟨leftCode, isLeft, rest⟩ := bind_eq_ok compiled
      obtain ⟨rightCode, isRight, same⟩ := bind_eq_ok rest
      cases same
      exact List.forall_mem_append.mpr ⟨List.forall_mem_append.mpr
        ⟨ihLeft isLeft plainLeft, ihRight isRight plainRight⟩, List.forall_mem_singleton.mpr rfl⟩

/-! ## Whole scans -/

/-- Conditions are evaluated in the same way after two scans: to the same verdicts on all rules, or to
the same error. -/
def JudgesAlike (rules : RuleSet) (first second : Context) : Prop :=
  Paired (fun first second => ∀ number rule,
    isMatching second number rule = isMatching first number rule) (fun _ _ => True)
    (evaluate rules first) (evaluate rules second)

theorem FoundAlike.judgesAlike (alike : FoundAlike first second)
    (plain : ∀ instruction ∈ rules.instructions, instruction.asksDetails = false) :
    JudgesAlike rules first second := by
  have tracks := (follows_foundAlike rules).evaluate alike plain
  rw [JudgesAlike]
  cases endedFirst : evaluate rules first <;> cases endedSecond : evaluate rules second <;>
    rw [endedFirst, endedSecond] at tracks
  case ok.ok => exact ⟨rfl, FoundAlike.isMatching_eq tracks⟩
  case ok.error => exact tracks
  case error.ok => exact tracks
  case error.error => exact ⟨(tracks.resolve_left id).1, trivial⟩

theorem exists_truncated {blocks : List Block} {flags : ScanFlags} (thorough : flags.fastMode = false)
    {slot : Nat} {fileSize : UInt64} {clock : Clock} {counts : List Nat} {after : Context}
    (searched : survey rules blocks (.new rules slot flags fileSize 0 clock) = .ok counts after)
    (slot' : Nat) (clock' : Clock) :
    ∃ after', survey rules blocks
        (.new rules slot' { flags with fastMode := true } fileSize 0 clock') = .ok counts after' ∧
      Truncated rules after after' := by
  obtain ⟨objects, begins⟩ := survey_begun searched
  rw [begins _ rfl] at searched
  have tracks := (steps_truncated rules).tally blocks
    (truncated_start objects slot slot' thorough fileSize clock clock')
  obtain ⟨_, after', searched', rfl, truncated⟩ := tracks.leads counts after searched
  have begins' := begins (.new rules slot' { flags with fastMode := true } fileSize 0 clock') rfl
  exact ⟨after', begins'.trans searched', truncated⟩

theorem survey_letters {collection : Collection} (compiled : collection.compile = .ok rules)
    (strings : rules.strings = #[⟨"a", 0, { }, .text [0x41]⟩]) (noExternals : rules.externals = []) :
    ∃ counts after,
      survey rules [⟨0, ⟨#[0x41, 0x41]⟩⟩] (.new rules 0 { } 2 0 default) = .ok counts after ∧
        (after.matchesOf 0).length = 2 ∧ Untouched (start rules [] 0 { } 2 0 default) after := by
  let block : Block := ⟨0, ⟨#[0x41, 0x41]⟩⟩
  let definition : StringDef := ⟨"a", 0, { }, .text [0x41]⟩
  have known : rules.strings[0]? = some definition := by rw [strings]; rfl
  have occurrences : definition.occurrences block =
      [⟨0, 0, 1, ⟨#[0x41]⟩⟩, ⟨0, 1, 1, ⟨#[0x41]⟩⟩] := by with_unfolding_all rfl
  have noRegex : ∀ regex, definition.pattern ≠ .regex regex := by
    intro regex isRegex
    cases isRegex
  have twice : (foundIn rules 0 block).length = 2 :=
    (foundBy_perm_occurrences compiled known fun offset length =>
      StringDef.hinted_of_matchLength? noRegex).length_eq.trans (congrArg List.length occurrences)
  have distinct : ([block].map Block.base).Nodup := List.nodup_singleton block.base
  have room : HasRoomForBlocks rules [block] (start rules [] 0 { } 2 0 default) :=
    hasRoom_start rules [] 0 { } 2 0 default (by decide) (by rw [strings]; decide)
  obtain ⟨_, after, ended, scanned, _⟩ := (scanBlocks_start rules [] 0 { } 2 0 default
    (candidatesKnown_of_consistent (RuleSet.Obtained.built compiled).consistent) rfl distinct).ok
      ⟨rfl, room⟩
  have untouched := untouched_of_scanBlocks ended
  rw [scanBlocks_eq_tally, discard_eq] at ended
  obtain ⟨counts, _, counted, same⟩ := bind_state_eq_ok ended
  cases same
  have searched : survey rules [block] (.new rules 0 { } 2 0 default) = .ok counts after := by
    rw [survey, noExternals]
    exact counted
  refine ⟨counts, after, searched, ?_, untouched⟩
  rw [scanned.found, matchesOf_started, List.nil_append, List.flatMap_singleton, twice]

theorem small_letter :
    (Automaton.tablesOf (signsOf [⟨"a", 0, { }, .text [0x41]⟩]) 1).cells.size ≤
      Automaton.tableLimit := by
  have signs : signsOf [⟨"a", 0, { }, .text [0x41]⟩] = [⟨[0x41], 1, 0⟩] := by with_unfolding_all rfl
  refine (Automaton.size_cells_le _ _).trans ?_
  rw [signs]
  decide

/-- Fast mode only shortens the lists of matches. Where a scan comes as far as to the conditions, so does
the one in fast mode, with the same candidates in each block and the first record of each list. Where
nothing asks for the number or the places of matches, the conditions are then evaluated alike. -/
theorem survey_truncated (rules : RuleSet) (blocks : List Block) {flags : ScanFlags}
    (thorough : flags.fastMode = false) {slot : Nat} {fileSize : UInt64} {clock : Clock}
    {counts : List Nat} {after : Context}
    (searched : survey rules blocks (.new rules slot flags fileSize 0 clock) = .ok counts after)
    (slot' : Nat) (clock' : Clock) :
    ∃ after', survey rules blocks
        (.new rules slot' { flags with fastMode := true } fileSize 0 clock') = .ok counts after' ∧
      (∀ string, after'.matchesOf string = (after.matchesOf string).take 1) ∧
      ((∀ instruction ∈ rules.instructions, instruction.asksDetails = false) →
        JudgesAlike rules after after') ∧
      ∀ collection built, Collection.compile collection = .ok built → built.Redefines rules →
        (∀ entry ∈ collection.rules,
          entry.2.condition.asksDetails = false ∧ entry.2.condition.LiteralsFit) →
        JudgesAlike rules after after' := by
  obtain ⟨after', searched', truncated⟩ := exists_truncated thorough searched slot' clock'
  refine ⟨after', searched', truncated.found, truncated.foundAlike.judgesAlike, ?_⟩
  intro collection built compiled redefines conditions
  apply truncated.foundAlike.judgesAlike
  rw [redefines.instructions_eq]
  intro instruction member
  obtain rfl | ⟨_, rfl⟩ | ⟨entry, listed, _, _, isCode, inCode, _⟩ :=
    origin_of_compiled compiled (fun entry listed => (conditions entry listed).2) member
  · rfl
  · rfl
  · exact asksDetails_of_code isCode (conditions entry listed).1 instruction inCode

/-- Of a string that occurs twice, fast mode records the first occurrence. -/
theorem survey_truncated_twice :
    let text : StringDecl := ⟨"a", .text "A", { }⟩
    let rule : RuleDecl := ⟨"r", none, false, false, [], [text], .found "a"⟩
    let block : Block := ⟨0, ⟨#[0x41, 0x41]⟩⟩
    ∃ rules, ({ rules := [("default", rule)] } : Collection).compile = .ok rules ∧
      ∃ counts after after',
        survey rules [block] (.new rules 0 { } 2 0 default) = .ok counts after ∧
        survey rules [block] (.new rules 0 { fastMode := true } 2 0 default) = .ok counts after' ∧
        (after.matchesOf 0).length = 2 ∧ (after'.matchesOf 0).length = 1 ∧
        JudgesAlike rules after after' := by
  intro text rule block
  let definition : StringDef := ⟨"a", 0, { }, .text [0x41]⟩
  have same : ({ rules := [("default", rule)] } : Collection).compilation =
      .ok ⟨#["default"], #[⟨"r", 0, false, false, [0], []⟩], #[definition],
        [[.found 0, .verdict 0]], []⟩ := by with_unfolding_all rfl
  obtain ⟨rules, compiled, gives⟩ := Collection.compile_ok rfl same small_letter
  obtain ⟨counts, after, searched, found, _⟩ :=
    survey_letters compiled gives.sameStrings gives.sameExternals
  obtain ⟨after', searched', taken, _, alike⟩ := survey_truncated rules [block] rfl searched 0 default
  refine ⟨rules, compiled, counts, after, after', searched, searched', found, ?_, ?_⟩
  · rw [taken, List.length_take, found]
    rfl
  · exact alike _ rules compiled .start (List.forall_mem_singleton.mpr ⟨rfl, trivial⟩)

/-- A condition that is a text asks for no details. Where its bytes are followed as instructions, these
may ask how often a string was found. -/
theorem survey_truncated_disguised :
    let disguise : Disguise :=
      ⟨[.count 0, .pushInteger 1, .compare .greaterThan], by decide +kernel, by decide⟩
    let text : StringDecl := ⟨"a", .text "A", { }⟩
    let rule : RuleDecl := ⟨"r", none, false, false, [], [text], .text disguise.text⟩
    let block : Block := ⟨0, ⟨#[0x41, 0x41]⟩⟩
    rule.condition.asksDetails = false ∧
    ∃ rules, ({ rules := [("default", rule)] } : Collection).compile = .ok rules ∧
      ∃ counts after after',
        survey rules [block] (.new rules 0 { } 2 0 default) = .ok counts after ∧
        survey rules [block] (.new rules 0 { fastMode := true } 2 0 default) = .ok counts after' ∧
        ¬JudgesAlike rules after after' := by
  intro disguise text rule block
  have same : ({ rules := [("default", rule)] } : Collection).compilation =
      .ok ⟨#["default"], #[⟨"r", 0, false, false, [0], []⟩], #[⟨"a", 0, { }, .text [0x41]⟩],
        [[.pushBytes disguise.text.toUTF8.toList] ++ [.verdict 0]], []⟩ := by
    have isCode (scope : Scope) : rule.condition.code scope =
        .ok [.pushBytes disguise.text.toUTF8.toList] := rfl
    have added : Compilation.addStrings "r" 0 [] ⟨#["default"], #[], #[], [], []⟩ [text] =
        .ok ([("a", 0)], ⟨#["default"], #[], #[⟨"a", 0, { }, .text [0x41]⟩], [], []⟩) := by with_unfolding_all rfl
    change Compilation.addRules ⟨#[], #[], #[], [], []⟩ [_] = _
    rw [Compilation.addRules, addRule_first isCode "default" _ added]
    rfl
  obtain ⟨rules, compiled, gives⟩ := Collection.compile_ok rfl same small_letter
  obtain ⟨counts, after, searched, found, untouched⟩ :=
    survey_letters compiled gives.sameStrings gives.sameExternals
  have thorough : ({ } : ScanFlags).fastMode = false := rfl
  obtain ⟨after', searched', truncated⟩ := exists_truncated thorough searched 0 default
  have isFirst : rules.rules[0]? = some ⟨"r", 0, false, false, [0], []⟩ := by
    rw [gives.sameRules]
    rfl
  have inRange : ∀ instruction ∈ disguise.code,
      instruction.InRange rules.strings.size rules.rules.size := by
    rw [gives.sameStrings, gives.sameRules]
    refine List.forall_mem_cons.mpr ⟨Nat.zero_lt_one, ?_⟩
    exact List.forall_mem_cons.mpr ⟨trivial, List.forall_mem_singleton.mpr trivial⟩
  have puts : ∀ instruction ∈ disguise.code, putsValue instruction = true := by decide
  have computed (context : Context) {count : Nat} (isCount : (context.matchesOf 0).length = count) :
      compute rules context [.bytes []] disguise.code =
        .ok [(Value.integer (Int64.ofNat count)).compare .greaterThan (.integer 1), .bytes []] := by
    rw [← isCount, Context.length_matchesOf]
    rfl
  have found' : (after'.matchesOf 0).length = 1 := by
    rw [truncated.found, List.length_take, found]
    rfl
  obtain ⟨ended, evaluated, judged⟩ := disguise.evaluate_eq_ok gives rfl isFirst rfl
    ⟨untouched.matched, untouched.unsatisfied⟩ untouched.timeout inRange puts
    fun _ => computed _ found
  obtain ⟨ended', evaluated', judged'⟩ := disguise.evaluate_eq_ok gives rfl isFirst rfl
    ⟨truncated.matched.trans untouched.matched, truncated.unsatisfied.trans untouched.unsatisfied⟩
    truncated.unlimited.2 inRange puts fun _ => computed _ found'
  refine ⟨rfl, rules, compiled, counts, after, after', searched, searched', fun alike => ?_⟩
  rw [JudgesAlike, evaluated, evaluated'] at alike
  have same := alike.2 0 ⟨"r", 0, false, false, [0], []⟩
  rw [judged, judged'] at same
  exact absurd same (by decide)

end Scan

end ByteScan
