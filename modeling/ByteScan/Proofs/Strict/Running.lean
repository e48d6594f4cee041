import ByteScan.Proofs.RuleFile.RoundTrip
import ByteScan.Proofs.Scan.Announcing
import ByteScan.Proofs.Strict.Evaluating
import ByteScan.Proofs.Strict.Loading

/-!
# Running without reaching beyond

The strict forms of what is around a scan: the slot that it holds, and the messages with the names,
strings and addresses that a listener may ask for. A compiled rule file, whatever it holds, is refused
or gives a rule set whose scans never reach beyond what there is: `read_run_strict`.
-/

namespace ByteScan

namespace Strict

/-! ## Slots -/

/-- The word with one bit, which has to be one of thirty-two. -/
def bit (slot : Nat) : Option (BitVec 32) := if slot < 32 then some (BitVec.twoPow 32 slot) else none

def acquire (slots : Slots) : Option (Option (Nat × Slots)) :=
  match (List.range Slots.count).find? fun slot => !slots.isHeld slot with
  | none => some none
  | some slot => do
    let taken ← bit slot
    some (some (slot, ⟨slots.mask ||| taken⟩))

def release (slots : Slots) (slot : Nat) : Option Slots := do
  let taken ← bit slot
  some ⟨slots.mask &&& ~~~taken⟩

/-! ## Messages -/

def located (found : Match) : Option Match := found.address?.map fun _ => found

def foundStrings (rules : RuleSet) (context : Context) :
    List Nat → Option (List (StringDef × List Match))
  | [] => some []
  | string :: strings =>
    if context.matchCount string = 0 then foundStrings rules context strings
    else do
      let defined ← rules.strings[string]?
      let found ← (context.matchesOf string).mapM located
      let others ← foundStrings rules context strings
      some ((defined, found) :: others)

def messageOn (rules : RuleSet) (context : Context) (number : Nat) (rule : Rule) :
    Option Message := do
  let space ← rules.spaces[rule.space]?
  let found ← foundStrings rules context rule.strings
  let verdict : Verdict := ⟨rule, space, found⟩
  some (if Scan.isMatching context number rule then .matching verdict else .notMatching verdict)

def verdicts (rules : RuleSet) (context : Context) : Option (List Message) :=
  (rules.rules.toList.zipIdx.filter fun entry => !entry.1.isPrivate).mapM fun (rule, number) =>
    messageOn rules context number rule

/-! ## Scans -/

def gather (rules : RuleSet) (blocks : List Block) : Acting Unit := do
  act (Context.bindExternals rules.externals)
  act Context.startClock
  scanBlocks rules blocks
  evaluate rules

abbrev Sharing (σ : Type) := StateT (Activity × σ) Option

def report (rules : RuleSet) (blocks : List Block) (context : Context) (listener : Listener σ) :
    Sharing σ (Except Error Unit) := fun state => do
  match ← gather rules blocks context with
  | .error error _ => some (.error error, state)
  | .ok () context => do
    let messages ← verdicts rules context
    some (Scan.announce listener messages (Scan.recordProfile context state.1, state.2))

def withSlot (use : Nat → Sharing σ (Except Error Unit)) : Sharing σ (Except Error Unit) :=
  fun (activity, memory) => do
    match ← acquire activity.slots with
    | none => some (.error .tooManyScans, (activity, memory))
    | some (slot, slots) => do
      let (result, activity, memory) ← use slot ({ activity with slots }, memory)
      let slots ← release activity.slots slot
      some (result, ({ activity with slots }, memory))

def run (rules : RuleSet) (blocks : List Block) (flags : ScanFlags) (timeout : Nanoseconds)
    (clock : Clock) (listener : Listener σ) : Sharing σ (Except Error Unit) :=
  match blocks with
  | [] => pure (.ok ())
  | first :: _ => withSlot fun slot =>
    let size := UInt64.ofNat first.data.size
    report rules blocks (.new rules slot flags size timeout clock) listener

end Strict

theorem Automaton.candidatesAt_eq_nil {automaton : Automaton} (none : automaton.strings = 0)
    (state : Nat) : automaton.candidatesAt state = [] := by
  obtain ⟨found, passed⟩ := Tables.exists_passed automaton.checked
  rw [List.eq_nil_iff_forall_not_mem]
  intro candidate member
  have known := passed.strings candidate
    (Array.mem_toList_iff.mpr (Automaton.mem_of_mem_candidatesAt member))
  rw [none] at known
  exact Nat.not_lt_zero _ known

namespace Scan

variable {rules : RuleSet} {context : Context}

/-! ## Messages -/

theorem mapM_eq_some {items : List α} {strict : α → Option β} {plain : α → β}
    (each : ∀ item ∈ items, strict item = some (plain item)) :
    items.mapM strict = some (items.map plain) := by
  induction items with
  | nil => rfl
  | cons item items ih =>
      obtain ⟨first, rest⟩ := List.forall_mem_cons.mp each
      rw [List.mapM_cons, first, ih rest]
      rfl

theorem foundStrings_strict (sane : context.Sane rules) {strings : List Nat}
    (known : ∀ string ∈ strings, string < rules.strings.size) :
    Strict.foundStrings rules context strings =
      some (strings.filterMap fun string =>
        if context.matchCount string = 0 then none
        else rules.strings[string]?.map fun defined => (defined, context.matchesOf string)) := by
  induction strings with
  | nil => rfl
  | cons string strings ih =>
      obtain ⟨first, rest⟩ := List.forall_mem_cons.mp known
      have isString := Array.getElem?_eq_getElem first
      have found : (context.matchesOf string).mapM Strict.located =
          some (context.matchesOf string) := by
        have each (item : Match) (member : item ∈ context.matchesOf string) :
            Strict.located item = some (id item) := by
          obtain ⟨address, isAddress⟩ := sane.addressed string item member
          rw [Strict.located, isAddress]
          rfl
        rw [mapM_eq_some each, List.map_id]
      rw [Strict.foundStrings, List.filterMap_cons]
      by_cases absent : context.matchCount string = 0
      · simp only [if_pos absent]
        exact ih rest
      · simp only [if_neg absent, isString, found, ih rest, Option.bind_eq_bind, Option.bind_some,
          Option.map_some]

theorem messageOn_strict (consistent : rules.Consistent) (sane : context.Sane rules) (number : Nat)
    {rule : Rule} (member : rule ∈ rules.rules) :
    Strict.messageOn rules context number rule = some (messageOn rules context number rule) := by
  have isSpace : rules.spaces[rule.space]? = some (rules.spaceOf rule) := by
    have within := consistent.inSpaces rule member
    rw [RuleSet.spaceOf, Array.getD_eq_getD_getElem?, Array.getElem?_eq_getElem within,
      Option.getD_some]
  rw [Strict.messageOn, isSpace, foundStrings_strict sane (consistent.inStrings rule member)]
  rfl

theorem verdicts_strict (consistent : rules.Consistent) (sane : context.Sane rules) :
    Strict.verdicts rules context = some (verdicts rules context) := by
  apply mapM_eq_some
  rintro ⟨rule, number⟩ listed
  have isRule := List.mem_zipIdx_iff_getElem?.mp (List.mem_filter.mp listed).1
  exact messageOn_strict consistent sane number
    (Array.mem_toList_iff.mp (List.mem_of_getElem? isRule))

/-! ## Scans -/

theorem bindExternals_safe (sane : context.Sane rules) (externals : List External) :
    Strict.Safe (Strict.act (Context.bindExternals externals)) (Context.bindExternals externals)
      (fun _ => Context.Sane rules) context := by
  apply Strict.Safe.act
  induction externals generalizing context with
  | nil => exact sane
  | cons external externals ih =>
      rw [bindExternals_cons]
      dsimp only
      split
      · trivial
      · exact ih (sane.of_lists rfl)

theorem gather_safe (blocks : List Block) (fits : ∀ block ∈ blocks, block.Fits)
    (sane : context.Sane rules) :
    Strict.Safe (Strict.gather rules blocks) (gather rules blocks) (fun _ => Context.Sane rules)
      context := by
  apply (bindExternals_safe sane rules.externals).bind
  intro _ after sane
  have started : Strict.Safe (Strict.act Context.startClock) Context.startClock
      (fun _ => Context.Sane rules) after := Strict.Safe.act (sane.of_lists rfl)
  apply started.bind
  intro _ after sane
  apply (scanBlocks_safe blocks fits sane).bind
  intro _ after sane
  exact evaluate_safe sane

theorem sane_new (slot : Nat) (flags : ScanFlags) (fileSize : UInt64) (timeout : Nanoseconds)
    (clock : Clock) : (Context.new rules slot flags fileSize timeout clock).Sane rules where
  size := size_lists_new rules slot flags fileSize timeout clock
  addressed := by
    intro string found member
    rw [matchesOf_new] at member
    cases member

/-- A strict action on the shared state has a result, and it is that of the other action. An error is
one that a scan may end with. -/
def Shares (strict : Strict.Sharing σ (Except Error Unit)) (plain : SharedM σ (Except Error Unit)) :
    Prop :=
  ∀ state, strict state = some (plain state) ∧
    ∀ error, (plain state).1 = .error error → error.IsOfScan

theorem report_shares (consistent : rules.Consistent) {blocks : List Block}
    (fits : ∀ block ∈ blocks, block.Fits) (sane : context.Sane rules) (listener : Listener σ) :
    Shares (Strict.report rules blocks context listener) (report rules blocks context listener) := by
  intro state
  obtain ⟨same, outcome⟩ := gather_safe blocks fits sane
  unfold Strict.report report
  rw [same]
  cases ended : gather rules blocks context with
  | error error after =>
      rw [ended] at outcome
      refine ⟨rfl, ?_⟩
      intro _ failed
      cases failed
      exact outcome
  | ok value after =>
      rw [ended] at outcome
      have messages := verdicts_strict consistent outcome
      constructor
      · simp only [Option.bind_eq_bind, Option.bind_some, messages]
        rfl
      · intro error failed
        have announced : (announce listener (verdicts rules after)
            (recordProfile after state.1, state.2)).1 = .error error := failed
        obtain ⟨log, _, heard⟩ := announce_heard listener (verdicts rules after)
          (recordProfile after state.1, state.2)
        rw [announced] at heard
        rw [heard.error_eq]
        trivial

theorem acquire_strict (slots : Slots) : Strict.acquire slots = some slots.acquire? := by
  rw [Strict.acquire, Slots.acquire?]
  cases free : (List.range Slots.count).find? fun slot => !slots.isHeld slot with
  | none => rfl
  | some slot =>
      have within : slot < 32 := List.mem_range.mp (List.mem_of_find?_eq_some free)
      have isBit : Strict.bit slot = some (BitVec.twoPow 32 slot) := if_pos within
      simp only [isBit, Option.bind_eq_bind, Option.bind_some]

theorem release_strict {slots held : Slots} {slot : Nat}
    (acquired : slots.acquire? = some (slot, held)) (later : Slots) :
    Strict.release later slot = some (later.release slot) := by
  have within : slot < 32 := by
    rw [Slots.acquire?] at acquired
    split at acquired
    · rename_i found
      cases acquired
      exact List.mem_range.mp (List.mem_of_find?_eq_some found)
    · cases acquired
  have isBit : Strict.bit slot = some (BitVec.twoPow 32 slot) := if_pos within
  rw [Strict.release, isBit]
  rfl

theorem withSlot_shares {strict : Nat → Strict.Sharing σ (Except Error Unit)}
    {plain : Nat → SharedM σ (Except Error Unit)}
    (each : ∀ slot, Shares (strict slot) (plain slot)) :
    Shares (Strict.withSlot strict) (withSlot plain) := by
  rintro ⟨activity, memory⟩
  rw [withSlot_eq, Strict.withSlot, acquire_strict]
  cases acquired : activity.slots.acquire? with
  | none =>
      refine ⟨rfl, ?_⟩
      intro _ failed
      cases failed
      trivial
  | some taken =>
      obtain ⟨slot, slots⟩ := taken
      obtain ⟨same, errors⟩ := each slot ({ activity with slots }, memory)
      constructor
      · simp only [Option.bind_eq_bind, Option.bind_some, same, release_strict acquired]
      · exact errors

theorem run_shares (consistent : rules.Consistent) {blocks : List Block}
    (fits : ∀ block ∈ blocks, block.Fits) (flags : ScanFlags) (timeout : Nanoseconds)
    (clock : Clock) (listener : Listener σ) :
    Shares (Strict.run rules blocks flags timeout clock listener)
      (run rules blocks flags timeout clock listener) := by
  cases blocks with
  | nil =>
      intro state
      refine ⟨rfl, ?_⟩
      intro _ failed
      cases failed
  | cons first rest =>
      apply withSlot_shares
      intro slot
      exact report_shares consistent fits (sane_new _ _ _ _ _) listener

/-! ## Files -/

/-- Whatever a compiled rule file holds, it is read without reaching beyond it. It is refused, or it
gives a rule set with which blocks that end before the addresses do are scanned without reaching beyond
what there is; an error is then one of those that a scan may end with. -/
theorem read_run_strict (bytes : List UInt8) :
    Strict.read bytes = some (RuleFile.read bytes) ∧
      (∀ error, RuleFile.read bytes = .error error → error.IsRefusal) ∧
      ∀ rules, RuleFile.read bytes = .ok rules →
        ∀ blocks : List Block, (∀ block ∈ blocks, block.Fits) →
          ∀ {σ : Type} (flags : ScanFlags) (timeout : Nanoseconds) (clock : Clock)
            (listener : Listener σ) (state : Activity × σ),
            Strict.run rules blocks flags timeout clock listener state =
                some (run rules blocks flags timeout clock listener state) ∧
              ∀ error, (run rules blocks flags timeout clock listener state).1 = .error error →
                error.IsOfScan := by
  obtain ⟨same, outcome⟩ := Strict.read_ran bytes
  refine ⟨same, ?_, ?_⟩
  · intro error refused
    rw [refused] at outcome
    exact outcome
  · intro rules loaded blocks fits σ flags timeout clock listener state
    rw [loaded] at outcome
    exact run_shares outcome fits flags timeout clock listener state

/-! ## Files of code alone -/

def ofCode (automaton : Automaton) (code : List UInt8) : RuleSet :=
  { spaces := #[], rules := #[], strings := #[], externals := [], automaton, code, codeStart := 0 }

/-- Any code stands in a file that is loaded; what it means is not looked at. -/
theorem exists_read_ofCode {code : List UInt8} (present : 0 < code.length)
    (short : code.length < UInt32.size - 1) :
    ∃ automaton, automaton.strings = 0 ∧
      RuleFile.read (RuleFile.write (ofCode automaton code)) = .ok (ofCode automaton code) := by
  obtain ⟨automaton, none, cells, candidates⟩ := Automaton.exists_blank
  have consistent : (ofCode automaton code).Consistent := ⟨nofun, nofun, nofun, none, present⟩
  refine ⟨automaton, none, RuleFile.read_write consistent
    (RuleFile.storable consistent ⟨?_, nofun, nofun, nofun, nofun⟩)⟩
  change ∀ count ∈ [0, 0, 0, 0, automaton.candidates.size, automaton.cells.size, code.length], _
  simp only [List.forall_mem_cons]
  refine ⟨by decide, by decide, by decide, by decide, ?_, ?_, short, nofun⟩
  · exact Nat.lt_trans candidates (by decide)
  · exact Nat.lt_trans cells (by decide)

/-- Without candidates and without a deadline, scanning only looks for an entry point. -/
theorem scanBlocks_of_no_candidates (none : ∀ state, rules.automaton.candidatesAt state = [])
    (timeless : context.timeout = 0) (blocks : List Block) :
    ∃ entryPoint, scanBlocks rules blocks context = .ok () { context with entryPoint } := by
  have confirmed (block : Block) (position state : Nat) :
      confirmState rules block position state = pure 0 := by
    rw [confirmState, none]
    rfl
  have walked (block : Block) (left position state count : Nat) {context : Context}
      (timeless : context.timeout = 0) :
      walk rules block left position state count context = .ok count context := by
    induction left generalizing position state count with
    | zero =>
        rw [walk, confirmed]
        rfl
    | succ left ih =>
        have inTime : Context.checkDeadline context = .ok () context := if_pos timeless
        rw [walk, confirmed]
        split
        · rw [bind_of_ok inTime]
          exact ih _ _ _
        · exact ih _ _ _
  induction blocks generalizing context with
  | nil => exact ⟨context.entryPoint, rfl⟩
  | cons block blocks ih =>
      obtain ⟨entryPoint, same⟩ := detectEntryPoint_rest block context
      have scanned : scanBlock rules block (detectEntryPoint block context) =
          .ok 0 { context with entryPoint } := by
        rw [same]
        exact walked block _ _ _ _ timeless
      have rest : ∃ later, scanBlocks rules blocks { context with entryPoint } =
          .ok () { context with entryPoint := later } := ih timeless
      obtain ⟨later, ended⟩ := rest
      exact ⟨later, (scanBlocks_cons scanned).trans ended⟩

/-- A file whose code asks for a rule that there is none of is loaded, and scanning with it fails. -/
theorem read_run_strict_unknown_rule :
    let code : List UInt8 := [0x14, 7, 0, 0, 0, 1, 0, 0, 0]
    let block : Block := ⟨0xFFFFFFFFFFFFFFFE, ⟨#[0x41]⟩⟩
    let listener : Listener Unit := fun _ state => (.proceed, state)
    let unknown : Error := .corrupt (.code (.unknownRule 7))
    let truncated : Error := .corrupt (.file (.truncated .header))
    (RuleFile.read [] = .error truncated ∧ truncated.IsRefusal) ∧
      ∃ bytes rules, RuleFile.read bytes = .ok rules ∧ rules.code = code ∧ block.Fits ∧
        (run rules [block] { } 0 default listener (Activity.idle rules, ())).1 = .error unknown ∧
        unknown.IsOfScan := by
  intro code block listener unknown truncated
  have refused : RuleFile.read [] = .error truncated := rfl
  refine ⟨⟨refused, (read_run_strict []).2.1 _ refused⟩, ?_⟩
  have loading : ∃ automaton, automaton.strings = 0 ∧
      RuleFile.read (RuleFile.write (ofCode automaton code)) = .ok (ofCode automaton code) :=
    exists_read_ofCode (by decide) (by decide)
  obtain ⟨automaton, none, loaded⟩ := loading
  have inside : ∀ other ∈ [block], other.Fits := by
    intro other member
    rw [List.mem_singleton.mp member]
    decide
  have failed : (run (ofCode automaton code) [block] { } 0 default listener
      (Activity.idle (ofCode automaton code), ())).1 = .error unknown := by
    let rules := ofCode automaton code
    let start := Context.new rules 0 { } 1 0 default
    let started := { start with clock := start.clock.look.2, started := start.clock.look.1 }
    have scanning : ∃ entryPoint, scanBlocks rules [block] started =
        .ok () { started with entryPoint } :=
      scanBlocks_of_no_candidates (Automaton.candidatesAt_eq_nil none) rfl [block]
    obtain ⟨entryPoint, scanned⟩ := scanning
    have gathered : gather rules [block] start =
        .error unknown { started with entryPoint } := by
      change (scanBlocks rules [block] >>= fun _ => evaluate rules) started = _
      rw [bind_of_ok scanned]
      rfl
    have free : Slots.empty.acquire? = some (0, ⟨1⟩) := by decide
    have idle : (Activity.idle rules).slots.acquire? = some (0, ⟨1⟩) := free
    change (withSlot (fun slot => report rules [block] (.new rules slot { } 1 0 default) listener)
      (Activity.idle rules, ())).1 = _
    rw [withSlot_eq, idle]
    dsimp only
    rw [report, gathered]
    rfl
  refine ⟨_, _, loaded, rfl, inside block (List.mem_singleton.mpr rfl), failed, ?_⟩
  exact ((read_run_strict _).2.2 _ loaded [block] inside { } 0 default listener
    (Activity.idle _, ())).2 _ failed

end Scan

end ByteScan
