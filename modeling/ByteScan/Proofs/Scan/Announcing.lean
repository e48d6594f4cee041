import ByteScan.Proofs.Scan.Blocks
import ByteScan.Proofs.Scan.Succeeding
import ByteScan.Proofs.Scan.Unsized

/-!
# What a listener is told

A scan that gathers its verdicts tells them to a listener, one message after another, until the
listener wants no more. `Told` follows the listener through some messages, and `Heard` says which
messages these are and how the scan ends. `run_announces` is about whole runs: the verdicts are those
that the conditions of the rules deserve, and a run that fails before there are verdicts tells
nothing.
-/

namespace ByteScan

/-- A listener is told some messages one after another and gives these answers. -/
inductive Told (listener : Listener σ) :
    Activity × σ → List (Message × Reply) → Activity × σ → Prop where
  | nil (state : Activity × σ) : Told listener state [] state
  | cons {message : Message} {reply : Reply} {state middle final : Activity × σ}
      {log : List (Message × Reply)} (answered : listener message state = (reply, middle))
      (later : Told listener middle log final) : Told listener state ((message, reply) :: log) final

/-- What is heard of some messages, with the answers, and how the scan ends. All are heard and then
that this was all, or those up to the first one after which no more are wanted. -/
inductive Heard : List Message → List (Message × Reply) → Except Error Unit → Prop where
  | finished (reply : Reply) : Heard [] [(.finished, reply)] (.ok ())
  | proceed (message : Message) {messages : List Message} {log : List (Message × Reply)}
      {result : Except Error Unit} (later : Heard messages log result) :
      Heard (message :: messages) ((message, .proceed) :: log) result
  | abort (message : Message) (messages : List Message) :
      Heard (message :: messages) [(message, .abort)] (.ok ())
  | fail (message : Message) (messages : List Message) :
      Heard (message :: messages) [(message, .fail)] (.error .callback)

/-- What is heard ends with an error only where the listener fails. -/
theorem Heard.error_eq {messages : List Message} {log : List (Message × Reply)} {error : Error}
    (heard : Heard messages log (.error error)) : error = .callback := by
  generalize told : (.error error : Except Error Unit) = result at heard
  induction heard with
  | finished reply => cases told
  | proceed message later ih => exact ih told
  | abort message messages => cases told
  | fail message messages =>
      cases told
      rfl

/-! ## What is to be told -/

namespace Collection

variable (collection : Collection) (rules : RuleSet) (context : Context)

def truth (number : Nat) : Bool :=
  match collection.rules[number]? with
  | none => false
  | some (space, decl) =>
    let meaning := collection.meaningOf rules context
      (fun earlier => if earlier < number then truth earlier else false) number space
    (decl.condition.eval meaning).isTruthy
termination_by number

def isVoid (space : String) : Bool :=
  collection.rules.zipIdx.any fun ((ofSpace, decl), number) =>
    ofSpace == space && decl.isGlobal && !collection.truth rules context number

/-- The messages about the rules that are not private, in the order of their declarations. A rule
matches where its condition counts as true and its namespace is not void. -/
def announced : List Message :=
  collection.rules.zipIdx.filterMap fun ((space, decl), number) =>
    if decl.isPrivate then none
    else rules.rules[number]?.map fun rule =>
      let verdict : Verdict := ⟨rule, space, Scan.foundStrings rules context rule⟩
      if collection.truth rules context number && !collection.isVoid rules context space then
        .matching verdict
      else .notMatching verdict

end Collection

namespace Scan

/-! ## Telling -/

theorem announce_cons (listener : Listener σ) (message : Message) (messages : List Message)
    (state : Activity × σ) :
    announce listener (message :: messages) state =
      match (listener message state).1 with
      | .proceed => announce listener messages (listener message state).2
      | .abort => (.ok (), (listener message state).2)
      | .fail => (.error .callback, (listener message state).2) := by
  have asked : announce listener (message :: messages) state =
      (match (listener message state).1 with
        | .proceed => announce listener messages
        | .abort => pure (.ok ())
        | .fail => pure (.error .callback)) (listener message state).2 := rfl
  rw [asked]
  cases (listener message state).1 <;> rfl

theorem announce_heard (listener : Listener σ) (messages : List Message)
    (state : Activity × σ) :
    ∃ log, Told listener state log (announce listener messages state).2 ∧
      Heard messages log (announce listener messages state).1 := by
  induction messages generalizing state with
  | nil =>
      refine ⟨[(.finished, (listener .finished state).1)], ?_, Heard.finished _⟩
      exact Told.cons rfl (Told.nil _)
  | cons message messages ih =>
      rw [announce_cons]
      cases answered : listener message state with
      | mk reply after =>
          cases reply with
          | proceed =>
              obtain ⟨log, told, heard⟩ := ih after
              exact ⟨_, Told.cons answered told, Heard.proceed message heard⟩
          | abort => exact ⟨_, Told.cons answered (Told.nil after), Heard.abort message messages⟩
          | fail => exact ⟨_, Told.cons answered (Told.nil after), Heard.fail message messages⟩

def Tireless (listener : Listener σ) : Prop := ∀ message state, (listener message state).1 = .proceed

/-- The listener that writes down what it is told, last message last, and acts as another one. -/
def recording (listener : Listener σ) : Listener (σ × List Message) :=
  fun message (activity, memory, log) =>
    let (reply, activity, memory) := listener message (activity, memory)
    (reply, activity, memory, log ++ [message])

theorem announce_recording {listener : Listener σ} (tireless : Tireless listener) (messages : List Message)
    (activity : Activity) (memory : σ) (log : List Message) :
    ∃ activity' memory', announce (recording listener) messages (activity, memory, log) =
      (.ok (), activity', memory', log ++ messages ++ [.finished]) := by
  induction messages generalizing activity memory log with
  | nil =>
      rw [List.append_nil]
      exact ⟨_, _, rfl⟩
  | cons message messages ih =>
      have proceeds : (recording listener message (activity, memory, log)).1 = .proceed :=
        tireless message (activity, memory)
      rw [announce_cons, proceeds]
      obtain ⟨activity', memory', told⟩ := ih (listener message (activity, memory)).2.1
        (listener message (activity, memory)).2.2 (log ++ [message])
      refine ⟨activity', memory', told.trans ?_⟩
      simp only [List.append_assoc, List.cons_append, List.nil_append]

/-! ## The state before conditions are evaluated -/

structure Unjudged (rules : RuleSet) (context : Context) : Prop where
  matched : context.matchedRules = Array.replicate rules.rules.size false
  unsatisfied : context.unsatisfiedSpaces = Array.replicate rules.spaces.size false

variable {rules : RuleSet} {context : Context}

theorem Unjudged.of_untouched {after : Context} (unjudged : Unjudged rules context)
    (untouched : Untouched context after) : Unjudged rules after :=
  ⟨untouched.matched.trans unjudged.matched, untouched.unsatisfied.trans unjudged.unsatisfied⟩

theorem Unjudged.bindExternals (unjudged : Unjudged rules context) (externals : List External) :
    Outcome (fun _ => Unjudged rules) (fun _ _ => True)
      (Context.bindExternals externals context) := by
  induction externals generalizing context with
  | nil => exact unjudged
  | cons external externals ih =>
      rw [bindExternals_cons]
      dsimp only
      split
      · trivial
      · exact ih { unjudged with }

/-- What is evaluated after the blocks have been scanned has no verdicts yet. -/
theorem evaluate_of_gather {blocks : List Block} {after : Context} (unjudged : Unjudged rules context)
    (gathered : gather rules blocks context = .ok () after) :
    ∃ scanned, Unjudged rules scanned ∧ evaluate rules scanned = .ok () after := by
  unfold gather at gathered
  obtain ⟨_, bound, binding, gathered⟩ := bind_state_eq_ok gathered
  obtain ⟨_, started, starting, gathered⟩ := bind_state_eq_ok gathered
  obtain ⟨_, scanned, scanning, evaluated⟩ := bind_state_eq_ok gathered
  have unjudged' := unjudged.bindExternals rules.externals
  rw [binding] at unjudged'
  have unjudged'' : Unjudged rules started := by
    cases starting
    exact { unjudged' with }
  exact ⟨scanned, unjudged''.of_untouched (untouched_of_scanBlocks scanning), evaluated⟩

/-! ## The messages -/

section

variable {collection : Collection} {compilation : Compilation} {start after : Context}
  (judged : Judged collection rules start collection.rules.length after)
include judged

theorem Judged.ruleMatched_eq (number : Nat) :
    after.ruleMatched number = collection.truth rules after number := by
  induction number using Nat.strongRecOn with
  | ind number ih =>
      rw [Collection.truth]
      cases isDecl : collection.rules[number]? with
      | none => exact judged.open_ number (List.getElem?_eq_none_iff.mp isDecl)
      | some entry =>
          obtain ⟨space, decl⟩ := entry
          have within := (List.getElem?_eq_some_iff.mp isDecl).1
          rw [judged.matched number space decl within isDecl, ← judged.meaningOf_eq]
          dsimp only
          rw [meaningOf_congr]
          intro earlier before
          rw [if_pos before, ih earlier before]

theorem Judged.isUnsatisfied_eq (gives : collection.Gives compilation rules)
    (numbered : compilation.Numbered collection.rules) {number : Nat} {space : String}
    (isSpace : rules.spaces[number]? = some space) :
    after.isUnsatisfied number = collection.isVoid rules after space := by
  rw [Bool.eq_iff_iff, judged.isUnsatisfied_iff gives numbered isSpace, Collection.isVoid,
    List.any_eq_true]
  have falsy {rule : Nat} {decl : RuleDecl} (isDecl : collection.rules[rule]? = some (space, decl)) :
      (decl.condition.eval (collection.meaningOf rules start after.ruleMatched rule space)).isTruthy =
        collection.truth rules after rule := by
    have within := (List.getElem?_eq_some_iff.mp isDecl).1
    rw [← judged.ruleMatched_eq, judged.matched rule space decl within isDecl]
  constructor
  · rintro ⟨rule, decl, isDecl, isGlobal, failed⟩
    refine ⟨((space, decl), rule), List.mem_zipIdx_iff_getElem?.mpr isDecl, ?_⟩
    rw [falsy isDecl] at failed
    simp only [BEq.rfl, isGlobal, failed, Bool.not_false, Bool.and_self]
  · rintro ⟨⟨⟨ofSpace, decl⟩, rule⟩, listed, failed⟩
    have isDecl := List.mem_zipIdx_iff_getElem?.mp listed
    simp only [Bool.and_eq_true, beq_iff_eq, Bool.not_eq_true'] at failed
    obtain ⟨⟨rfl, isGlobal⟩, failed⟩ := failed
    exact ⟨rule, decl, isDecl, isGlobal, (falsy isDecl).trans failed⟩

end

theorem filterMap_zipIdx_congr {left : List α} {right : List β} {first : α × Nat → Option γ}
    {second : β × Nat → Option γ} (number : Nat) (lengths : left.length = right.length)
    (same : ∀ (index : Nat) item other, left[index]? = some item → right[index]? = some other →
      first (item, number + index) = second (other, number + index)) :
    (left.zipIdx number).filterMap first = (right.zipIdx number).filterMap second := by
  induction left generalizing right number with
  | nil =>
      rw [List.length_eq_zero_iff.mp lengths.symm]
      rfl
  | cons item left ih =>
      cases right with
      | nil => cases lengths
      | cons other right =>
          have rest := ih (number + 1) (Nat.succ.inj lengths) fun index item other isItem isOther => by
            rw [Nat.add_assoc, Nat.add_comm 1 index]
            exact same (index + 1) item other isItem isOther
          have head := same 0 item other rfl rfl
          rw [List.zipIdx_cons, List.zipIdx_cons, List.filterMap_cons, List.filterMap_cons, rest]
          rw [Nat.add_zero] at head
          rw [head]

theorem Judged.verdicts_eq {collection : Collection} {compilation : Compilation}
    {start after : Context}
    (judged : Judged collection rules start collection.rules.length after)
    (gives : collection.Gives compilation rules)
    (numbered : compilation.Numbered collection.rules) :
    verdicts rules after = collection.announced rules after := by
  rw [verdicts, Collection.announced, ← List.filterMap_eq_map, List.filterMap_filter]
  refine filterMap_zipIdx_congr 0 ?_ ?_
  · rw [Array.length_toList, gives.sameRules, numbered.count]
  · rintro number rule ⟨space, decl⟩ isRule isDecl
    obtain ⟨declared, scope, instructions, declares⟩ := numbered.each number space decl isDecl
    rw [Array.getElem?_toList] at isRule
    have same := isRule
    rw [gives.sameRules, declares.listed] at same
    cases same
    have isSpace : rules.spaces[rule.space]? = some space := by
      rw [gives.sameSpaces]
      exact declares.inSpace
    have named : rules.spaceOf rule = space := by
      rw [RuleSet.spaceOf, Array.getD_eq_getD_getElem?, isSpace]
      rfl
    simp only [declares.samePrivate, isRule, Function.comp_apply, Option.map_some, messageOn,
      isMatching, named, judged.ruleMatched_eq, judged.isUnsatisfied_eq gives numbered isSpace,
      Nat.zero_add]
    cases decl.isPrivate <;> rfl

/-- A scan that succeeds has the verdicts that the conditions deserve. -/
theorem verdicts_of_gather {collection : Collection} (compiled : collection.compile = .ok rules)
    (fits : rules.FitsWords) (literals : ∀ entry ∈ collection.rules, entry.2.condition.LiteralsFit)
    {blocks : List Block} {slot : Nat} {flags : ScanFlags} {fileSize : UInt64}
    {timeout : Nanoseconds} {clock : Clock} {after : Context}
    (gathered : gather rules blocks (.new rules slot flags fileSize timeout clock) = .ok () after) :
    verdicts rules after = collection.announced rules after := by
  obtain ⟨_, compilation, isCompilation, gives⟩ := Collection.compile_eq_ok compiled
  obtain ⟨numbered, externals⟩ :=
    (Compilation.numbered_start (collection.externals.map External.identifier)).addRules isCompilation
  rw [List.nil_append] at numbered
  obtain ⟨scanned, unjudged, evaluated⟩ := evaluate_of_gather ⟨rfl, rfl⟩ gathered
  have judged := judged_of_evaluate gives numbered externals fits literals unjudged.matched
    unjudged.unsatisfied evaluated
  exact judged.verdicts_eq gives numbered

/-! ## Runs -/

theorem Slots.release_of_acquire? {slots held : Slots} {slot : Nat}
    (acquired : slots.acquire? = some (slot, held)) : held.release slot = slots := by
  rw [Slots.acquire?] at acquired
  split at acquired
  · rename_i found
    have free := List.find?_some found
    rw [Bool.not_eq_true'] at free
    cases acquired
    rw [Slots.release]
    congr 1
    refine BitVec.eq_of_getLsbD_eq ?_
    intro other within
    simp only [BitVec.getLsbD_and, BitVec.getLsbD_or, BitVec.getLsbD_not, BitVec.getLsbD_twoPow,
      within, decide_true, Bool.true_and]
    by_cases isSlot : slot = other
    · subst isSlot
      have isFree : slots.mask[slot] = false := free
      simp [isFree, within]
    · simp [isSlot]
  · cases acquired

theorem withSlot_eq (use : Nat → SharedM σ (Except Error Unit)) (activity : Activity) (memory : σ) :
    withSlot use (activity, memory) =
      match activity.slots.acquire? with
      | none => (.error .tooManyScans, (activity, memory))
      | some (slot, slots) =>
        let used := use slot ({ activity with slots }, memory)
        (used.1, ({ used.2.1 with slots := used.2.1.slots.release slot }, used.2.2)) := by
  have acquiring : withSlot use (activity, memory) =
      (match activity.slots.acquire? with
        | none => pure (.error .tooManyScans)
        | some (slot, slots) => do
          set ({ activity with slots }, memory)
          let result ← use slot
          modify fun shared =>
            ({ shared.1 with slots := shared.1.slots.release slot }, shared.2)
          pure result : SharedM σ (Except Error Unit)) (activity, memory) := rfl
  rw [acquiring]
  cases activity.slots.acquire? with
  | none => rfl
  | some acquired => rfl

/-- A run that has its verdicts tells them all to a listener that wants to go on. -/
theorem run_recording {listener : Listener σ} (tireless : Tireless listener) {block : Block} {blocks : List Block}
    {flags : ScanFlags} {clock : Clock} {activity : Activity} {slot : Nat} {slots : Slots}
    (acquired : activity.slots.acquire? = some (slot, slots))
    (gathered : gather rules (block :: blocks)
      (.new rules slot flags (UInt64.ofNat block.data.size) 0 clock) = .ok () context) (memory : σ) :
    ∃ activity' memory', run rules (block :: blocks) flags 0 clock (recording listener)
        (activity, memory, []) =
      (.ok (), activity', memory', verdicts rules context ++ [.finished]) := by
  obtain ⟨activity', memory', told⟩ := announce_recording tireless (verdicts rules context)
    (recordProfile context { activity with slots }) memory []
  have running : run rules (block :: blocks) flags 0 clock (recording listener)
      (activity, memory, []) = withSlot (fun slot => report rules (block :: blocks)
        (Context.new rules slot flags (UInt64.ofNat block.data.size) 0 clock) (recording listener))
        (activity, memory, []) := rfl
  have reported : report rules (block :: blocks)
      (.new rules slot flags (UInt64.ofNat block.data.size) 0 clock) (recording listener)
      ({ activity with slots }, memory, []) = announce (recording listener) (verdicts rules context)
        (recordProfile context { activity with slots }, memory, []) := by
    rw [report, gathered]
    rfl
  rw [running, withSlot_eq, acquired]
  dsimp only
  rw [reported, told]
  exact ⟨_, _, rfl⟩

theorem gather_of_no_strings (known : rules.CandidatesKnown) (noStrings : rules.strings = #[])
    (noExternals : rules.externals = []) {blocks : List Block}
    (distinct : (blocks.map Block.base).Nodup) {flags : ScanFlags}
    (thorough : flags.fastMode = false) (slot : Nat) (fileSize : UInt64) (clock : Clock) :
    ∃ scanned, gather rules blocks (.new rules slot flags fileSize 0 clock) = evaluate rules scanned ∧
      Untouched (start rules [] slot flags fileSize 0 clock) scanned ∧
      ∀ string, scanned.matchesOf string = [] := by
  have nothing (string : Nat) (block : Block) : foundIn rules string block = [] := by
    rw [foundIn, foundBy, noStrings]
    rfl
  have room : HasRoomForBlocks rules blocks (start rules [] slot flags fileSize 0 clock) := by
    constructor
    case each =>
      intro string within
      rw [noStrings] at within
      cases within
    case all =>
      have none (block : Block) : countIn rules block = 0 := by
        rw [countIn, noStrings]
        exact Finset.sum_range_zero _
      rw [funext none, List.map_const', List.sum_replicate_nat, Nat.mul_zero]
      exact Nat.zero_le _
  obtain ⟨_, scanned, scans, found, _⟩ :=
    (scanBlocks_start rules [] slot flags fileSize 0 clock known thorough distinct).ok ⟨rfl, room⟩
  have begins : search rules blocks (.new rules slot flags fileSize 0 clock) =
      scanBlocks rules blocks (start rules [] slot flags fileSize 0 clock) := by
    rw [search, noExternals]
    rfl
  refine ⟨scanned, ?_, untouched_of_scanBlocks scans, fun string => ?_⟩
  · rw [gather_eq, bind_of_ok (begins.trans scans)]
  · rw [found.found, matchesOf_started, List.nil_append]
    exact List.flatMap_eq_nil_iff.mpr fun block _ => nothing string block

theorem gather_ok_of_no_strings {collection : Collection} (compiled : collection.compile = .ok rules)
    (fits : rules.FitsWords) (evaluable : collection.Evaluable) (noStrings : rules.strings = #[])
    (noExternals : rules.externals = []) (slot : Nat) (flags : ScanFlags) (fileSize : UInt64)
    (clock : Clock) (thorough : flags.fastMode = false) (block : Block) :
    ∃ after, gather rules [block] (Context.new rules slot flags fileSize 0 clock) =
      .ok () after := by
  obtain ⟨_, compilation, _, gives⟩ := Collection.compile_eq_ok compiled
  have distinct : ([block].map Block.base).Nodup := List.nodup_singleton block.base
  obtain ⟨scanned, gathering, untouched, nothing⟩ := gather_of_no_strings gives.candidatesKnown
    noStrings noExternals distinct thorough slot fileSize clock
  have addresses : AddressesFit scanned := by
    intro string found listed
    rw [nothing] at listed
    cases listed
  obtain ⟨after, evaluated, _⟩ := evaluate_judged compiled fits evaluable untouched.matched
    untouched.unsatisfied untouched.timeout addresses
  exact ⟨after, gathering.trans evaluated⟩

/-- If the condition of the first rule is a text that is code, and the rule is not global, that code
decides whether the rule matches, and no other rule matches. -/
theorem Disguise.evaluate_eq_ok (disguise : Disguise) {collection : Collection}
    {compilation : Compilation} (gives : collection.Gives compilation rules) {more : List Instruction}
    (coded : compilation.code.reverse.flatten = .pushBytes disguise.text.toUTF8.toList :: more)
    {rule : Rule} (isFirst : rules.rules[0]? = some rule) (notGlobal : rule.isGlobal = false)
    (unjudged : Unjudged rules context) (unlimited : context.timeout = 0)
    (inRange : ∀ instruction ∈ disguise.code,
      instruction.InRange rules.strings.size rules.rules.size)
    (puts : ∀ instruction ∈ disguise.code, putsValue instruction = true) {value : Value}
    {stack : List Value}
    (computed : ∀ clock, compute rules { context with clock } [.bytes []] disguise.code =
      .ok (value :: stack)) :
    ∃ after, evaluate rules context = .ok () after ∧
      ∀ number rule, isMatching after number rule = (number == 0 && value.isTruthy) := by
  obtain ⟨known, -⟩ := Array.getElem?_eq_some_iff.mp isFirst
  obtain ⟨clock, times, evaluated⟩ :=
    disguise.evaluate_eq gives coded unlimited inRange puts known computed
  refine ⟨_, evaluated, fun number rule => ?_⟩
  have blank (size index : Nat) : (Array.replicate size false).getD index false = false := by
    rw [Array.getD_eq_getD_getElem?, Array.getElem?_replicate]
    split <;> rfl
  rw [isMatching, recordVerdict, isFirst]
  cases value.isTruthy with
  | false =>
      simp [notGlobal, Context.ruleMatched, Context.isUnsatisfied, unjudged.matched,
        unjudged.unsatisfied, blank]
  | true =>
      rw [if_pos rfl]
      simp only [Context.setRuleMatched, Context.ruleMatched, Context.isUnsatisfied, unjudged.matched,
        unjudged.unsatisfied, blank, Bool.not_false, Bool.and_true]
      rw [Array.getD_eq_getD_getElem?, Array.getElem?_setIfInBounds, Array.size_replicate]
      by_cases same : 0 = number
      · rw [if_pos same, if_pos known, ← same]
        rfl
      · rw [if_neg same, ← Array.getD_eq_getD_getElem?, blank]
        simp [Ne.symm same]

theorem Disguise.gather_eq_ok (disguise : Disguise)
    (gives : (soleCondition (.text disguise.text)).Gives
      ⟨#["default"], #[⟨"r", 0, false, false, [], []⟩], #[],
        [[.pushBytes disguise.text.toUTF8.toList] ++ [.verdict 0]], []⟩ rules) {blocks : List Block}
    (distinct : (blocks.map Block.base).Nodup) {flags : ScanFlags}
    (thorough : flags.fastMode = false) (slot : Nat) (fileSize : UInt64) (clock : Clock)
    (inRange : ∀ instruction ∈ disguise.code, instruction.InRange 0 1)
    (puts : ∀ instruction ∈ disguise.code, putsValue instruction = true) {value : Value}
    {stack : List Value}
    (computed : ∀ context : Context, context.fileSize = fileSize →
      compute rules context [.bytes []] disguise.code = .ok (value :: stack)) :
    ∃ after, gather rules blocks (.new rules slot flags fileSize 0 clock) = .ok () after ∧
      ∀ rule, isMatching after 0 rule = value.isTruthy := by
  obtain ⟨scanned, gathering, untouched, _⟩ := gather_of_no_strings gives.candidatesKnown
    gives.sameStrings gives.sameExternals distinct thorough slot fileSize clock
  have isFirst : rules.rules[0]? = some ⟨"r", 0, false, false, [], []⟩ := by
    rw [gives.sameRules]
    rfl
  have inRange' : ∀ instruction ∈ disguise.code,
      instruction.InRange rules.strings.size rules.rules.size := by
    rw [gives.sameStrings, gives.sameRules]
    exact inRange
  obtain ⟨after, evaluated, judged⟩ := disguise.evaluate_eq_ok gives rfl isFirst rfl
    ⟨untouched.matched, untouched.unsatisfied⟩ untouched.timeout inRange' puts
    fun _ => computed _ untouched.fileSize
  exact ⟨after, gathering.trans evaluated, fun rule => judged 0 rule⟩

/-- A run tells a listener the verdicts that the conditions of the rules deserve, as long as it wants
them, and nothing where it fails before there are verdicts. -/
theorem run_announces {collection : Collection} (compiled : collection.compile = .ok rules)
    (blocks : List Block) (flags : ScanFlags) (timeout : Nanoseconds) (clock : Clock)
    (listener : Listener σ) (activity : Activity) (memory : σ) :
    let ran := run rules blocks flags timeout clock listener (activity, memory)
    (blocks = [] → ran = (.ok (), (activity, memory))) ∧
    ∀ first rest, blocks = first :: rest →
      (activity.slots.acquire? = none → ran = (.error .tooManyScans, (activity, memory))) ∧
      ∀ slot slots, activity.slots.acquire? = some (slot, slots) →
        let start := Context.new rules slot flags (UInt64.ofNat first.data.size) timeout clock
        (∀ error after, gather rules blocks start = .error error after →
          ran = (.error error, (activity, memory))) ∧
        ∀ after, gather rules blocks start = .ok () after →
          ∃ log result final,
            Told listener (recordProfile after { activity with slots }, memory) log final ∧
            Heard (verdicts rules after) log result ∧
            ran = (result, ({ final.1 with slots := final.1.slots.release slot }, final.2)) ∧
            (rules.FitsWords → (∀ entry ∈ collection.rules, entry.2.condition.LiteralsFit) →
              verdicts rules after = collection.announced rules after) := by
  intro ran
  constructor
  · rintro rfl
    rfl
  · rintro first rest rfl
    have running : ran = withSlot (fun slot => report rules (first :: rest)
        (Context.new rules slot flags (UInt64.ofNat first.data.size) timeout clock) listener)
        (activity, memory) := rfl
    rw [withSlot_eq] at running
    constructor
    · intro full
      rw [running, full]
    · intro slot slots acquired start
      rw [acquired] at running
      have released := Slots.release_of_acquire? acquired
      constructor
      · intro error after failed
        have reported : report rules (first :: rest) start listener =
            pure (.error error) := by rw [report, failed]
        rw [running]
        dsimp only
        rw [reported]
        change ((.error error : Except Error Unit),
          ({ activity with slots := slots.release slot }, memory)) = _
        rw [released]
      · intro after gathered
        let begun : Activity × σ := (recordProfile after { activity with slots }, memory)
        have reported : report rules (first :: rest) start listener ({ activity with slots }, memory) =
            announce listener (verdicts rules after) begun := by
          rw [report, gathered]
          rfl
        obtain ⟨log, told, heard⟩ := announce_heard listener (verdicts rules after) begun
        refine ⟨log, _, _, told, heard, ?_, ?_⟩
        · rw [running]
          dsimp only
          rw [reported]
        · exact fun fits literals => verdicts_of_gather compiled fits literals gathered

/-- A private global rule that fails is not told of, and a rule of its namespace does not match. -/
theorem run_announces_void :
    let never : RuleDecl := ⟨"never", none, true, true, [], [], .truth false⟩
    let always : RuleDecl := ⟨"always", none, false, false, [], [], .truth true⟩
    let listener : Listener (List Bool) := fun message (activity, memory) =>
      match message with
      | .matching _ => (.proceed, (activity, true :: memory))
      | .notMatching _ => (.proceed, (activity, false :: memory))
      | .finished => (.fail, (activity, memory))
    ∃ rules, ({ rules := [("default", always), ("default", never)] } : Collection).compile =
        .ok rules ∧
      ∃ activity,
        run rules [⟨0, ⟨#[0x41]⟩⟩] { } 0 default listener (Activity.idle rules, []) =
          (.ok (), (activity, [false])) := by
  intro never always listener
  let collection : Collection := { rules := [("default", always), ("default", never)] }
  have same : collection.compilation =
      .ok ⟨#["default"],
        #[⟨"always", 0, false, false, [], []⟩, ⟨"never", 0, true, true, [], []⟩], #[],
        [[.pushBoolean false, .verdict 1], [.pushBoolean true, .verdict 0]], []⟩ := by with_unfolding_all rfl
  have small : (Automaton.tablesOf (signsOf []) 0).cells.size ≤ Automaton.tableLimit :=
    (Automaton.size_cells_le _ _).trans (by decide)
  obtain ⟨rules, compiled, gives⟩ := Collection.compile_ok rfl same small
  have fits : rules.FitsWords :=
    ⟨by rw [gives.sameStrings]; decide, by rw [gives.sameRules]; decide,
      by rw [gives.sameExternals]; decide, by rw [gives.sameRules]; decide⟩
  have evaluable : collection.Evaluable :=
    ⟨by decide, by simp [collection, always, never, Condition.LiteralsFit]⟩
  have acquired : Slots.empty.acquire? = some (0, ⟨1⟩) := by decide
  obtain ⟨after, gathered⟩ := gather_ok_of_no_strings compiled fits evaluable gives.sameStrings
    gives.sameExternals 0 { } 1 default rfl ⟨0, ⟨#[0x41]⟩⟩
  have ran := (run_announces compiled [⟨0, ⟨#[0x41]⟩⟩] { } 0 default listener
    (Activity.idle rules) []).2 _ _ rfl
  obtain ⟨log, result, final, told, heard, ended, announced⟩ := (ran.2 _ _ acquired).2 after gathered
  have isTrue : collection.truth rules after 0 = true := by
    rw [Collection.truth]
    rfl
  have isFalse : collection.truth rules after 1 = false := by
    rw [Collection.truth]
    rfl
  have isVoid : collection.isVoid rules after "default" = true := by
    simp [Collection.isVoid, collection, always, never, isFalse]
  have messages : verdicts rules after =
      [.notMatching ⟨⟨"always", 0, false, false, [], []⟩, "default", []⟩] := by
    rw [announced fits evaluable.literals, Collection.announced, gives.sameRules]
    simp [collection, always, never, isTrue, isVoid, foundStrings]
  rw [messages] at heard
  refine ⟨rules, compiled, { final.1 with slots := final.1.slots.release 0 }, ?_⟩
  refine ended.trans ?_
  cases heard with
  | proceed _ later =>
      cases later
      cases told with
      | cons answered told =>
          cases answered
          cases told with
          | cons answered told =>
              cases answered
              cases told
              rfl
  | abort _ _ =>
      cases told with
      | cons answered _ => cases answered
  | fail _ _ =>
      cases told with
      | cons answered _ => cases answered

/-- A condition that is a text counts as true. Where the word of the length of the text is zero, its
bytes are followed as instructions, and these may say that the condition is false. -/
theorem run_announces_disguised :
    let disguise : Disguise := ⟨[.pushBoolean false], by decide +kernel, by decide⟩
    let listener : Listener Unit := fun _ state => (.proceed, state)
    ∃ rules, (soleCondition (.text disguise.text)).compile = .ok rules ∧
      (∀ meaning, ((Condition.text disguise.text).eval meaning).isTruthy = true) ∧
      ∃ activity verdict,
        run rules [⟨0, .empty⟩] { } 0 default (recording listener) (.idle rules, (), []) =
          (.ok (), (activity, (), [.notMatching verdict, .finished])) := by
  intro disguise listener
  obtain ⟨rules, compiled, gives⟩ := compile_soleText disguise.text
  have distinct : ([(⟨0, .empty⟩ : Block)].map Block.base).Nodup := List.nodup_singleton _
  have thorough : ({ } : ScanFlags).fastMode = false := rfl
  obtain ⟨after, gathered, unmatched⟩ := disguise.gather_eq_ok gives distinct thorough 0 0 default
    (List.forall_mem_singleton.mpr trivial) (List.forall_mem_singleton.mpr rfl) fun _ _ => rfl
  have acquired : (Activity.idle rules).slots.acquire? = some (0, ⟨1⟩) :=
    show Slots.empty.acquire? = some (0, ⟨1⟩) by decide
  have tireless : Tireless listener := fun _ _ => rfl
  obtain ⟨activity, _, ran⟩ := run_recording tireless acquired gathered ()
  let rule : Rule := ⟨"r", 0, false, false, [], []⟩
  have message : messageOn rules after 0 rule =
      .notMatching ⟨rule, rules.spaceOf rule, foundStrings rules after rule⟩ := by
    rw [messageOn, unmatched]
    rfl
  have messages : verdicts rules after = [messageOn rules after 0 rule] := by
    rw [verdicts, gives.sameRules]
    rfl
  rw [messages, message] at ran
  have isTrue := disguise.isTruthy_text
  exact ⟨rules, compiled, isTrue, activity, _, ran⟩

end Scan

end ByteScan
