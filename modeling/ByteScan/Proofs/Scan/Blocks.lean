import ByteScan.Proofs.Scan.Repeats
import ByteScan.Proofs.Strict.Loading
import Mathlib.Algebra.Group.Action.Defs

/-!
# Blocks one by one

Scanning a block whose base is new adds to the list of each string what scanning the block alone would
find, and fails only where there is no room for that. So blocks with different bases are scanned
independently of each other.
-/

namespace ByteScan.Scan

variable {rules : RuleSet} {blocks : List Block} {block : Block} {earlier context : Context}

theorem candidatesKnown_of_consistent (consistent : rules.Consistent) : rules.CandidatesKnown := by
  obtain ⟨found, passed⟩ := Tables.exists_passed rules.automaton.checked
  intro candidate listed
  have known := passed.strings candidate (Array.mem_toList_iff.mpr listed)
  rwa [Automaton.toTables, consistent.tables] at known

/-! ## What blocks add -/

def foundIn (rules : RuleSet) (string : Nat) (block : Block) : List Match :=
  foundBy rules block (visitsBefore rules block (block.data.size + 1)) string

def countIn (rules : RuleSet) (block : Block) : Nat :=
  ∑ string ∈ Finset.range rules.strings.size, (foundIn rules string block).length

/-- The state after some blocks have been scanned. -/
structure Scanned (rules : RuleSet) (blocks : List Block) (earlier context : Context) : Prop where
  flags : context.flags = earlier.flags
  timeout : context.timeout = earlier.timeout
  size_lists : context.lists.size = rules.strings.size
  found : ∀ string,
    context.matchesOf string = earlier.matchesOf string ++ blocks.flatMap (foundIn rules string)
  recorded : ∀ string base offset, (string, base, offset) ∈ context.recorded →
    (string, base, offset) ∈ earlier.recorded ∨ base ∈ blocks.map Block.base
  total : context.total = earlier.total + (blocks.map (countIn rules)).sum

/-- There is room for what scanning some blocks finds. -/
structure HasRoomForBlocks (rules : RuleSet) (blocks : List Block) (context : Context) : Prop where
  each : ∀ string < rules.strings.size,
    context.matchCount string + (blocks.flatMap (foundIn rules string)).length ≤ Context.matchLimit
  all : context.total + (blocks.map (countIn rules)).sum ≤ Arena.capacity

theorem base_of_mem_foundIn {string : Nat} {found : Match} (member : found ∈ foundIn rules string block) :
    found.base = block.base := by
  rw [foundIn] at member
  cases known : rules.strings[string]? with
  | none =>
      rw [foundBy, known] at member
      cases member
  | some definition => exact (place_of_mem_foundBy known member).1

theorem Recorded.scanned
    (recorded : Recorded rules block earlier (visitsBefore rules block (block.data.size + 1)) context) :
    Scanned rules [block] earlier context where
  flags := recorded.flags
  timeout := recorded.timeout
  size_lists := recorded.size_lists
  found := by
    intro string
    rw [recorded.found, List.flatMap_singleton]
    rfl
  recorded := by
    intro string base offset listed
    rcases (recorded.recorded string base offset).mp listed with before | ⟨_, same, _⟩
    · exact .inl before
    · exact .inr (List.mem_singleton.mpr same)
  total := by
    rw [recorded.total, List.map_singleton, List.sum_singleton]
    rfl

theorem Scanned.trans {middle : Context} {more : List Block}
    (first : Scanned rules blocks earlier middle) (second : Scanned rules more middle context) :
    Scanned rules (blocks ++ more) earlier context where
  flags := second.flags.trans first.flags
  timeout := second.timeout.trans first.timeout
  size_lists := second.size_lists
  found := by
    intro string
    rw [second.found, first.found, List.flatMap_append, List.append_assoc]
  recorded := by
    intro string base offset listed
    rw [List.map_append, List.mem_append]
    rcases second.recorded string base offset listed with before | isLater
    · exact (first.recorded string base offset before).imp_right .inl
    · exact .inr (.inr isLater)
  total := by
    rw [second.total, first.total, List.map_append, List.sum_append, Nat.add_assoc]

theorem Scanned.unseen (scanned : Scanned rules blocks earlier context) {base : UInt64}
    (unseen : Unseen base earlier) (other : base ∉ blocks.map Block.base) : Unseen base context where
  last := by
    intro string found isLast
    rw [Context.lastMatch?_eq, scanned.found, List.getLast?_append] at isLast
    cases inBlocks : (blocks.flatMap (foundIn rules string)).getLast? with
    | none =>
        rw [inBlocks, Option.none_or, ← Context.lastMatch?_eq] at isLast
        exact unseen.last string found isLast
    | some last =>
        rw [inBlocks, Option.some_or] at isLast
        cases isLast
        obtain ⟨block, listed, member⟩ := List.mem_flatMap.mp (List.mem_of_getLast? inBlocks)
        rw [base_of_mem_foundIn member]
        rintro rfl
        exact other (List.mem_map_of_mem listed)
  recorded := by
    intro string offset listed
    rcases scanned.recorded string base offset listed with before | inBlocks
    · exact unseen.recorded string offset before
    · exact other inBlocks

theorem HasRoomForBlocks.first (room : HasRoomForBlocks rules (block :: blocks) context) :
    HasRoomForBlocks rules [block] context := by
  constructor
  · intro string within
    have each := room.each string within
    rw [List.flatMap_cons, List.length_append] at each
    rw [List.flatMap_singleton]
    omega
  · have all := room.all
    rw [List.map_cons, List.sum_cons] at all
    rw [List.map_singleton, List.sum_singleton]
    omega

theorem HasRoomForBlocks.rest (room : HasRoomForBlocks rules (block :: blocks) earlier)
    (scanned : Scanned rules [block] earlier context) : HasRoomForBlocks rules blocks context := by
  constructor
  · intro string within
    have each := room.each string within
    rw [← Context.length_matchesOf] at each ⊢
    rw [List.flatMap_cons, List.length_append] at each
    rw [scanned.found, List.flatMap_singleton, List.length_append]
    omega
  · have all := room.all
    rw [List.map_cons, List.sum_cons] at all
    rw [scanned.total, List.map_singleton, List.sum_singleton]
    omega

/-! ## Scanning -/

section

variable (known : rules.CandidatesKnown) (thorough : earlier.flags.fastMode = false)
include known thorough

theorem scanBlock_scanned (sizes : earlier.lists.size = rules.strings.size)
    (unseen : Unseen block.base earlier) :
    Ends (earlier.timeout = 0 ∧ HasRoomForBlocks rules [block] earlier)
      (fun _ => Scanned rules [block] earlier)
      (discard (scanBlock rules block) (detectEntryPoint block earlier)) := by
  obtain ⟨entryPoint, same⟩ := detectEntryPoint_rest block earlier
  rw [same]
  have unseen' : Unseen block.base { earlier with entryPoint } := ⟨unseen.last, unseen.recorded⟩
  refine ((scanBlock_ends unseen' thorough known sizes).spare ?_).bind ?_
  · rintro ⟨timeless, room⟩
    refine ⟨timeless, ⟨?_, ?_⟩⟩
    · intro string within
      have each := room.each string within
      rwa [List.flatMap_singleton] at each
    · have all := room.all
      rwa [List.map_singleton, List.sum_singleton] at all
  · intro _ after recorded
    have scanned := recorded.scanned
    exact { scanned with }

/-- Blocks with different new bases are scanned one by one, and nothing is in the way if there is room
for what each of them holds. -/
theorem scanBlocks_scanned (sizes : earlier.lists.size = rules.strings.size)
    (distinct : (blocks.map Block.base).Nodup) (unseen : ∀ block ∈ blocks, Unseen block.base earlier) :
    Ends (earlier.timeout = 0 ∧ HasRoomForBlocks rules blocks earlier)
      (fun _ => Scanned rules blocks earlier) (scanBlocks rules blocks earlier) := by
  induction blocks generalizing earlier with
  | nil => exact ⟨rfl, rfl, sizes, fun _ => (List.append_nil _).symm, fun _ _ _ => .inl, rfl⟩
  | cons block blocks ih =>
      obtain ⟨isNew, distinct⟩ := List.nodup_cons.mp distinct
      obtain ⟨firstUnseen, restUnseen⟩ := List.forall_mem_cons.mp unseen
      have one := (scanBlock_scanned known thorough sizes firstUnseen).spare
        fun both : earlier.timeout = 0 ∧ HasRoomForBlocks rules (block :: blocks) earlier =>
          ⟨both.1, both.2.first⟩
      apply one.bind
      intro _ middle scanned
      have unseen' (other : Block) (listed : other ∈ blocks) : Unseen other.base middle := by
        apply scanned.unseen (restUnseen other listed)
        rw [List.map_singleton, List.mem_singleton]
        intro same
        exact isNew (same ▸ List.mem_map_of_mem listed)
      have rest := ih (scanned.flags ▸ thorough) scanned.size_lists distinct unseen'
      refine (rest.spare fun both => ⟨scanned.timeout.trans both.1, both.2.rest scanned⟩).imp ?_
      intro _ after scanned'
      exact scanned.trans scanned'

end

/-! ## Room -/

structure Bounded (rules : RuleSet) (context : Context) : Prop where
  sized : context.lists.size = rules.strings.size
  each : ∀ string, context.matchCount string ≤ Context.matchLimit
  all : context.total ≤ Arena.capacity

theorem Bounded.addMatch (bounded : Bounded rules context) {string : Nat} (found : Match)
    (within : string < context.lists.size) :
    Outcome (fun _ => Bounded rules) (fun _ _ => True) (Context.addMatch string found context) := by
  have room (full : context.hasRoom string = true) {after : Context}
      (appended : context.Appended string found after) : Bounded rules after := by
    rw [Context.hasRoom, Bool.and_eq_true, decide_eq_true_eq, decide_eq_true_eq] at full
    refine ⟨appended.size_lists.trans bounded.sized, ?_, ?_⟩
    · intro other
      rw [← Context.length_matchesOf]
      by_cases same : string = other
      · subst same
        rw [appended.same, List.length_append, Context.length_matchesOf]
        exact full.1
      · rw [appended.other other same, Context.length_matchesOf]
        exact bounded.each other
    · rw [appended.total]
      exact full.2
  have appended := context.appended_append found within
  rw [Context.addMatch]
  split
  · rename_i full
    split
    · exact room full { appended with }
    · exact room full appended
  · trivial

theorem Bounded.confirmBy {remembers : Nat → Bool} (bounded : Bounded rules context) (string : Nat)
    (block : Block) (offset : Nat) :
    Outcome (fun _ => Bounded rules) (fun _ _ => True)
      (confirmBy remembers rules string block offset context) := by
  unfold Scan.confirmBy
  split
  · trivial
  · rename_i definition known
    split
    · exact bounded
    · split
      · exact bounded
      · have within : string < (rememberBy remembers string block offset context).lists.size := by
          rw [lists_rememberBy, bounded.sized]
          exact (Array.getElem?_eq_some_iff.mp known).1
        refine Bounded.addMatch ?_ _ within
        unfold rememberBy
        split
        · exact { bounded with }
        · exact bounded

theorem keeps_bounded (remembers : Nat → Bool) (rules : RuleSet) :
    Keeps remembers rules (fun _ => True) (Bounded rules) (fun _ _ => True) where
  confirm := fun offset _ _ bounded => bounded.confirmBy _ _ offset
  looked := fun bounded => { bounded with }
  charged := fun _ _ bounded => { bounded with }
  chargedBad := fun _ _ _ => trivial
  late := fun _ => trivial
  entered := fun _ bounded => { bounded with }

theorem Scanned.hasRoom (scanned : Scanned rules blocks earlier context)
    (bounded : Bounded rules context) : HasRoomForBlocks rules blocks earlier := by
  constructor
  · intro string _
    have each := bounded.each string
    rwa [← Context.length_matchesOf, scanned.found, List.length_append,
      Context.length_matchesOf] at each
  · have all := bounded.all
    rwa [scanned.total] at all

/-- The room that is needed does not depend on the order of the blocks. -/
theorem HasRoomForBlocks.perm {shuffled : List Block} (room : HasRoomForBlocks rules blocks context)
    (same : blocks.Perm shuffled) : HasRoomForBlocks rules shuffled context := by
  constructor
  · intro string within
    rw [← (same.flatMap_right (foundIn rules string)).length_eq]
    exact room.each string within
  · rw [← (same.map (countIn rules)).sum_eq]
    exact room.all

/-! ## Searching -/

/-- What a scan does before it evaluates conditions. -/
def search (rules : RuleSet) (blocks : List Block) : ScanM Unit := do
  Context.bindExternals rules.externals
  Context.startClock
  scanBlocks rules blocks

theorem gather_eq (rules : RuleSet) (blocks : List Block) :
    gather rules blocks = search rules blocks >>= fun _ => evaluate rules := by
  simp only [gather, search, bind_assoc]

def begun (objects : List (String × Value)) (context : Context) : Context :=
  { context.looked with objects, started := context.clock.look.1 }

theorem bindExternals_cons (external : External) (externals : List External) (context : Context) :
    Context.bindExternals (external :: externals) context =
      let bound := { context with
        objects := (external.identifier, Context.valueOf external.value) :: context.objects }
      if (context.object? external.identifier).isSome then
        .error (.invalidArgument (.boundTwice external.identifier)) bound
      else Context.bindExternals externals bound := by
  rw [Context.bindExternals]
  refine (bind_of_ok rfl).trans ((bind_of_ok rfl).trans ?_)
  cases (context.object? external.identifier).isSome with
  | true => rfl
  | false => rfl

theorem bindExternals_eq_ok {externals : List External} {after : Context}
    (bound : Context.bindExternals externals context = .ok () after) :
    ∃ objects, ∀ other : Context, other.objects = context.objects →
      Context.bindExternals externals other = .ok () { other with objects } := by
  induction externals generalizing context with
  | nil => exact ⟨context.objects, fun other same => same ▸ rfl⟩
  | cons external externals ih =>
      rw [bindExternals_cons] at bound
      dsimp only at bound
      split at bound
      · cases bound
      · rename_i isNew
        obtain ⟨objects, others⟩ := ih bound
        refine ⟨objects, fun other same => ?_⟩
        have sameObject : other.object? external.identifier = context.object? external.identifier := by
          rw [Context.object?, same]
          rfl
        rw [bindExternals_cons, sameObject]
        dsimp only
        rw [if_neg isNew, same]
        exact others _ rfl

/-- A search that comes to its end begins as every search with the same rule set does. -/
theorem search_begun {after : Context} (reached : search rules blocks context = .ok () after) :
    ∃ objects, ∀ other : Context, other.objects = context.objects → ∀ blocks,
      search rules blocks other = scanBlocks rules blocks (begun objects other) := by
  obtain ⟨_, bound, binding, _⟩ := bind_state_eq_ok reached
  obtain ⟨objects, others⟩ := bindExternals_eq_ok binding
  refine ⟨objects, fun other same blocks => ?_⟩
  rw [search, bind_of_ok (others other same)]
  rfl

section

variable (rules) (objects : List (String × Value)) (slot : Nat) (flags : ScanFlags)
  (fileSize : UInt64) (timeout : Nanoseconds) (clock : Clock)

def start : Context := begun objects (.new rules slot flags fileSize timeout clock)

theorem matchesOf_started (string : Nat) :
    (start rules objects slot flags fileSize timeout clock).matchesOf string = [] :=
  matchesOf_new rules slot flags fileSize timeout clock string

theorem bounded_start : Bounded rules (start rules objects slot flags fileSize timeout clock) where
  sized := Array.size_replicate
  each := by
    intro string
    rw [← Context.length_matchesOf, matchesOf_started]
    exact Nat.zero_le _
  all := Nat.zero_le _

theorem unseen_start (base : UInt64) :
    Unseen base (start rules objects slot flags fileSize timeout clock) :=
  have unseen := unseen_new rules slot flags fileSize timeout clock base
  ⟨unseen.last, unseen.recorded⟩

theorem hasRoom_start (short : block.data.size ≤ Context.matchLimit)
    (few : rules.strings.size * block.data.size ≤ Arena.capacity) :
    HasRoomForBlocks rules [block] (start rules objects slot flags fileSize timeout clock) := by
  have each (string : Nat) (within : string < rules.strings.size) :
      (foundIn rules string block).length ≤ block.data.size := by
    refine (length_foundBy_le (Array.getElem?_eq_getElem within)).trans ?_
    exact (List.length_filterMap_le _ _).trans List.length_range.le
  constructor
  · intro string within
    rw [← Context.length_matchesOf, matchesOf_started, List.length_nil, Nat.zero_add,
      List.flatMap_singleton]
    exact (each string within).trans short
  · rw [List.map_singleton, List.sum_singleton, countIn]
    have all := Finset.sum_le_card_nsmul (Finset.range rules.strings.size) _ block.data.size
      fun string member => each string (Finset.mem_range.mp member)
    rw [Finset.card_range, smul_eq_mul] at all
    exact (Nat.zero_add _).le.trans (all.trans few)

/-- Some blocks can be searched from a fresh context if there is room for what they hold. -/
theorem scanBlocks_start (known : rules.CandidatesKnown) (thorough : flags.fastMode = false)
    (distinct : (blocks.map Block.base).Nodup) :
    Ends (timeout = 0 ∧
        HasRoomForBlocks rules blocks (start rules objects slot flags fileSize timeout clock))
      (fun _ after => Scanned rules blocks (start rules objects slot flags fileSize timeout clock) after ∧
        HasRoomForBlocks rules blocks (start rules objects slot flags fileSize timeout clock))
      (scanBlocks rules blocks (start rules objects slot flags fileSize timeout clock)) := by
  have ends := scanBlocks_scanned known thorough Array.size_replicate distinct
    fun block _ => unseen_start rules objects slot flags fileSize timeout clock block.base
  have kept := (keeps_bounded rules.hasMixedBacktrack rules).scanBlocksBy blocks
    (fun _ _ => trivial) (bounded_start rules objects slot flags fileSize timeout clock)
  rw [scanBlocksBy_mixed] at kept
  cases ended : scanBlocks rules blocks (start rules objects slot flags fileSize timeout clock) with
  | ok value after =>
      rw [ended] at kept
      have scanned := ends.of_ok ended
      exact ⟨scanned, scanned.hasRoom kept⟩
  | error error after =>
      rw [ended] at ends
      exact ends

end

theorem HasRoomForBlocks.single (room : HasRoomForBlocks rules blocks context)
    (listed : block ∈ blocks) : HasRoomForBlocks rules [block] context := by
  obtain ⟨before, after, rfl⟩ := List.append_of_mem listed
  exact (room.perm List.perm_middle).first

/-- When the conditions are to be evaluated, the list of each string holds what a scan of each block
alone finds, in the order of the blocks. -/
theorem search_alone (known : rules.CandidatesKnown) {flags : ScanFlags}
    (thorough : flags.fastMode = false) (distinct : (blocks.map Block.base).Nodup) {slot : Nat}
    {fileSize : UInt64} {clock : Clock} {after : Context}
    (reached : search rules blocks (.new rules slot flags fileSize 0 clock) = .ok () after)
    (slot' : Nat) (clock' : Clock) :
    ∃ alone : Block → Context,
      (∀ block ∈ blocks, search rules [block] (.new rules slot' flags
        (UInt64.ofNat block.data.size) 0 clock') = .ok () (alone block)) ∧
      ∀ string, after.matchesOf string = blocks.flatMap fun block => (alone block).matchesOf string := by
  obtain ⟨objects, begins⟩ := search_begun reached
  rw [begins _ rfl] at reached
  obtain ⟨scanned, room⟩ := (scanBlocks_start rules objects slot flags fileSize 0 clock known
    thorough distinct).of_ok reached
  have each (block : Block) : ∃ ended, block ∈ blocks →
      search rules [block] (.new rules slot' flags (UInt64.ofNat block.data.size) 0 clock') =
        .ok () ended ∧ ∀ string, ended.matchesOf string = foundIn rules string block := by
    by_cases listed : block ∈ blocks
    · have roomForOne := room.single listed
      have single : ([block].map Block.base).Nodup := List.nodup_singleton _
      have starts := begins (.new rules slot' flags (UInt64.ofNat block.data.size) 0 clock') rfl
        [block]
      obtain ⟨_, ended, same, found, _⟩ := (scanBlocks_start rules objects slot' flags
        (UInt64.ofNat block.data.size) 0 clock' known thorough single).ok
        ⟨rfl, roomForOne.each, roomForOne.all⟩
      refine ⟨ended, fun _ => ⟨starts.trans same, fun string => ?_⟩⟩
      rw [found.found, matchesOf_started, List.nil_append, List.flatMap_singleton]
    · exact ⟨after, fun listed' => absurd listed' listed⟩
  choose alone spec using each
  refine ⟨alone, fun block listed => (spec block listed).1, fun string => ?_⟩
  rw [scanned.found, matchesOf_started, List.nil_append]
  exact List.flatMap_congr fun block listed => ((spec block listed).2 string).symm

end ByteScan.Scan
