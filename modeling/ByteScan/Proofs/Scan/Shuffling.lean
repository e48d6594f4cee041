import ByteScan.Proofs.Scan.Announcing
import ByteScan.Proofs.Scan.Tracking
import ByteScan.Proofs.Strict.Scanning

/-!
# The order of blocks

Blocks with different bases may be scanned in any order: each string gets the same matches, in an order
that conditions do not ask for. Only the size and the entry point of the data depend on which block comes
first. Where no instruction asks for these, all verdicts are the same: `gather_shuffled`. Both ways in
which blocks are independent are put together in `blocks_independent`.
-/

namespace ByteScan

namespace Scan

variable {rules : RuleSet} {first second : Context}

/-! ## Instructions -/

/-- Two states with the same matches, perhaps in another order, and the same verdicts. -/
structure Shuffled (first second : Context) : Prop where
  flags : second.flags = first.flags
  unlimited : first.timeout = 0 ∧ second.timeout = 0
  found : ∀ string, (first.matchesOf string).Perm (second.matchesOf string)
  addressed : AddressesFit first
  objects : second.objects = first.objects
  matched : second.matchedRules = first.matchedRules
  unsatisfied : second.unsatisfiedSpaces = first.unsatisfiedSpaces

namespace Shuffled

variable (shuffled : Shuffled first second)
include shuffled

theorem matchCount_eq (string : Nat) : second.matchCount string = first.matchCount string := by
  rw [← Context.length_matchesOf, ← Context.length_matchesOf, (shuffled.found string).length_eq]

theorem anyAddress_eq (property : Int64 → Bool) (string : Nat) :
    anyAddress property (second.matchesOf string) = anyAddress property (first.matchesOf string) := by
  have same := shuffled.found string
  have fits := shuffled.addressed string
  rcases anyAddress_cases property (first.matchesOf string) with isFirst | ⟨_, unfit⟩
  · rcases anyAddress_cases property (second.matchesOf string) with isSecond | ⟨_, unfit⟩
    · rw [isFirst, isSecond, same.any_eq]
    · exact absurd (fun found member => fits found (same.mem_iff.mpr member)) unfit
  · exact absurd fits unfit

theorem countFound_eq (rule : Option Rule) : countFound second rule = countFound first rule := by
  cases rule with
  | none => rfl
  | some rule => simp only [countFound, shuffled.matchCount_eq]

theorem valueOf_eq {instruction : Instruction} (silent : instruction.asksData = false)
    (stack : List Value) :
    valueOf rules second stack instruction = valueOf rules first stack instruction := by
  cases instruction with
  | fileSize => cases silent
  | entryPoint => cases silent
  | found string | count string => simp only [valueOf, shuffled.matchCount_eq]
  | foundAt string | foundIn string => simp only [valueOf, shuffled.anyAddress_eq]
  | ofThem rule minimum => simp only [valueOf, shuffled.countFound_eq]
  | rule rule => simp only [valueOf, Context.ruleMatched, shuffled.matched]
  | external index => simp only [valueOf, Context.object?, shuffled.objects]
  | _ => rfl

end Shuffled

/-! ## Code -/

theorem Shuffled.recordVerdict (shuffled : Shuffled first second) (number : Nat) (value : Value) :
    Shuffled (recordVerdict rules number value first) (recordVerdict rules number value second) := by
  unfold Scan.recordVerdict
  split
  · refine { shuffled with matched := ?_ }
    simp only [Context.setRuleMatched, shuffled.matched]
  · split
    · split
      · refine { shuffled with unsatisfied := ?_ }
        simp only [Context.setUnsatisfied, shuffled.unsatisfied]
      · exact shuffled
    · exact shuffled

/-- Conditions that ask for neither the size nor the entry point are evaluated alike. -/
theorem follows_shuffled (rules : RuleSet) :
    Follows rules (fun _ => False) (fun instruction => instruction.asksData = false) Shuffled where
  value := fun stack shuffled silent => shuffled.valueOf_eq silent stack
  verdict := fun number value shuffled => shuffled.recordVerdict number value
  deadline := by
    intro first second shuffled
    rw [checkDeadline_unlimited shuffled.unlimited.1, checkDeadline_unlimited shuffled.unlimited.2]
    exact shuffled
  looked := fun shuffled => { shuffled with }
  charged := fun _ _ _ shuffled => { shuffled with }
  profile := fun shuffled => congrArg ScanFlags.profile shuffled.flags

/-! ## Blocks -/

/-- What is found in a block that ends before the addresses do has an address. -/
theorem address_of_mem_foundIn (fits : block.Fits) {string : Nat} {found : Match}
    (member : found ∈ foundIn rules string block) :
    found.base.toNat + found.offset < UInt64.size := by
  rw [foundIn] at member
  cases known : rules.strings[string]? with
  | none =>
      rw [foundBy, known] at member
      cases member
  | some definition =>
      obtain ⟨sameBase, _, occurs⟩ := place_of_mem_foundBy known member
      obtain ⟨length, stands, _⟩ := Option.map_eq_some_iff.mp occurs
      have within := StringDef.lt_size_of_matchLength? stands
      rw [sameBase]
      exact Nat.lt_trans (Nat.add_lt_add_left within _) fits

theorem Scanned.addressesFit {blocks : List Block} (fits : ∀ block ∈ blocks, block.Fits)
    {objects : List (String × Value)} {slot : Nat} {flags : ScanFlags} {fileSize : UInt64}
    {timeout : Nanoseconds} {clock : Clock} {context : Context}
    (scanned : Scanned rules blocks (start rules objects slot flags fileSize timeout clock) context) :
    AddressesFit context := by
  intro string found member
  rw [scanned.found, matchesOf_started, List.nil_append] at member
  obtain ⟨block, listed, member⟩ := List.mem_flatMap.mp member
  exact address_of_mem_foundIn (fits block listed) member

section

variable {blocks shuffled : List Block} (perm : blocks.Perm shuffled)
  (fits : ∀ block ∈ blocks, block.Fits) {flags : ScanFlags}
include perm fits

theorem shuffled_of_scanned {objects : List (String × Value)} {slot slot' : Nat}
    {fileSize fileSize' : UInt64} {clock clock' : Clock}
    (scanned : Scanned rules blocks (start rules objects slot flags fileSize 0 clock) first)
    (untouched : Untouched (start rules objects slot flags fileSize 0 clock) first)
    (scanned' : Scanned rules shuffled (start rules objects slot' flags fileSize' 0 clock') second)
    (untouched' : Untouched (start rules objects slot' flags fileSize' 0 clock') second) :
    Shuffled first second where
  flags := untouched'.flags.trans untouched.flags.symm
  unlimited := ⟨untouched.timeout, untouched'.timeout⟩
  found := by
    intro string
    rw [scanned.found, scanned'.found, matchesOf_started, matchesOf_started, List.nil_append,
      List.nil_append]
    exact perm.flatMap_right _
  addressed := scanned.addressesFit fits
  objects := untouched'.objects.trans untouched.objects.symm
  matched := untouched'.matched.trans untouched.matched.symm
  unsatisfied := untouched'.unsatisfied.trans untouched.unsatisfied.symm

/-- Blocks with different bases give all rules the same verdicts in any order, where the conditions
ask for neither the size nor the entry point of the data. -/
theorem gather_shuffled (known : rules.CandidatesKnown) (thorough : flags.fastMode = false)
    (distinct : (blocks.map Block.base).Nodup)
    (silent : ∀ instruction ∈ rules.instructions, instruction.asksData = false)
    {slot : Nat} {fileSize : UInt64} {clock : Clock} {after : Context}
    (gathered : gather rules blocks (.new rules slot flags fileSize 0 clock) = .ok () after)
    (slot' : Nat) (fileSize' : UInt64) (clock' : Clock) :
    ∃ after', gather rules shuffled (.new rules slot' flags fileSize' 0 clock') = .ok () after' ∧
      Shuffled after after' := by
  rw [gather_eq] at gathered
  obtain ⟨_, middle, searched, evaluated⟩ := bind_state_eq_ok gathered
  obtain ⟨objects, begins⟩ := search_begun searched
  rw [begins _ rfl] at searched
  have ends := scanBlocks_start rules objects slot flags fileSize 0 clock known thorough distinct
  obtain ⟨scanned, room⟩ := ends.of_ok searched
  have distinct' : (shuffled.map Block.base).Nodup := (perm.map Block.base).nodup_iff.mp distinct
  have room' := room.perm perm
  have ends' := scanBlocks_start rules objects slot' flags fileSize' 0 clock' known thorough distinct'
  obtain ⟨_, middle', searched', scanned', _⟩ := ends'.ok ⟨rfl, room'.each, room'.all⟩
  have shuffled' := shuffled_of_scanned perm fits scanned (untouched_of_scanBlocks searched) scanned'
    (untouched_of_scanBlocks searched')
  have tracks := (follows_shuffled rules).evaluate shuffled' silent
  obtain ⟨_, after', evaluated', result⟩ := tracks.leads () after evaluated
  have searching := (begins (.new rules slot' flags fileSize' 0 clock') rfl shuffled).trans searched'
  refine ⟨after', ?_, result⟩
  rw [gather_eq, bind_of_ok searching, evaluated']

end

theorem Shuffled.isMatching_eq (shuffled : Shuffled first second) (number : Nat) (rule : Rule) :
    isMatching second number rule = isMatching first number rule := by
  rw [isMatching, Context.ruleMatched, shuffled.matched, Context.isUnsatisfied,
    shuffled.unsatisfied]
  rfl

/-! ## Independence -/

/-- The verdicts on all rules do not depend on the order in which some blocks are scanned. -/
def OrderFree (rules : RuleSet) (flags : ScanFlags) (blocks : List Block) : Prop :=
  ∀ shuffled, blocks.Perm shuffled → ∀ slot fileSize clock after,
    gather rules blocks (.new rules slot flags fileSize 0 clock) = .ok () after →
      ∀ slot' fileSize' clock', ∃ after',
        gather rules shuffled (.new rules slot' flags fileSize' 0 clock') = .ok () after' ∧
          ∀ number rule, isMatching after' number rule = isMatching after number rule

/-- Blocks with different bases are scanned independently: when the conditions are to be evaluated, the
list of each string holds what a scan of each block alone finds, one block after another. So the order
of the blocks does not matter to the verdicts where no condition asks for the size or the entry point. -/
theorem blocks_independent (obtained : rules.Obtained) {blocks : List Block}
    (distinct : (blocks.map Block.base).Nodup) {flags : ScanFlags}
    (thorough : flags.fastMode = false) :
    (∀ slot fileSize clock after,
      search rules blocks (.new rules slot flags fileSize 0 clock) = .ok () after →
        ∀ slot' clock', ∃ alone : Block → Context,
          (∀ block ∈ blocks, search rules [block] (.new rules slot' flags
            (UInt64.ofNat block.data.size) 0 clock') = .ok () (alone block)) ∧
          ∀ string, after.matchesOf string =
            blocks.flatMap fun block => (alone block).matchesOf string) ∧
    ((∀ block ∈ blocks, block.Fits) →
      ((∀ instruction ∈ rules.instructions, instruction.asksData = false) →
        OrderFree rules flags blocks) ∧
      ∀ collection built, Collection.compile collection = .ok built → built.Redefines rules →
        (∀ entry ∈ collection.rules,
          entry.2.condition.asksData = false ∧ entry.2.condition.LiteralsFit) →
        OrderFree rules flags blocks) := by
  have known := candidatesKnown_of_consistent obtained.consistent
  have orderFree (fits : ∀ block ∈ blocks, block.Fits)
      (silent : ∀ instruction ∈ rules.instructions, instruction.asksData = false) :
      OrderFree rules flags blocks := by
    intro shuffled perm slot fileSize clock after gathered slot' fileSize' clock'
    obtain ⟨after', gathered', same⟩ := gather_shuffled perm fits known thorough distinct silent
      gathered slot' fileSize' clock'
    exact ⟨after', gathered', same.isMatching_eq⟩
  constructor
  · intro slot fileSize clock after reached
    exact search_alone known thorough distinct reached
  · intro fits
    refine ⟨orderFree fits, ?_⟩
    intro collection built compiled redefines conditions
    apply orderFree fits
    rw [redefines.instructions_eq]
    exact silent_of_compiled compiled (fun entry listed => (conditions entry listed).2)
      fun entry listed => (conditions entry listed).1

/-- A string that occurs at the start of each of two blocks. -/
theorem blocks_independent_two :
    let text : StringDecl := ⟨"a", .text "A", { }⟩
    let rule : RuleDecl := ⟨"r", none, false, false, [], [text], .foundAt "a" (.integer 1)⟩
    let first : Block := ⟨0, ⟨#[0x41]⟩⟩
    let second : Block := ⟨1, ⟨#[0x41]⟩⟩
    ∃ rules, ({ rules := [("default", rule)] } : Collection).compile = .ok rules ∧
      OrderFree rules { } [first, second] ∧
      ∃ (after : Context) (alone : Block → Context),
        search rules [first, second] (.new rules 0 { } 1 0 default) = .ok () after ∧
        (∀ block ∈ [first, second], search rules [block] (.new rules 0 { }
          (UInt64.ofNat block.data.size) 0 default) = .ok () (alone block)) ∧
        ∀ string, after.matchesOf string =
          (alone first).matchesOf string ++ (alone second).matchesOf string := by
  intro text rule first second
  let definition : StringDef := ⟨"a", 0, { }, .text [0x41]⟩
  have same : ({ rules := [("default", rule)] } : Collection).compilation =
      .ok ⟨#["default"], #[⟨"r", 0, false, false, [0], []⟩], #[definition],
        [[.pushInteger 1, .foundAt 0, .verdict 0]], []⟩ := by with_unfolding_all rfl
  have signs : signsOf [definition] = [⟨[0x41], 1, 0⟩] := by with_unfolding_all rfl
  have small : (Automaton.tablesOf (signsOf [definition]) 1).cells.size ≤ Automaton.tableLimit := by
    refine (Automaton.size_cells_le _ _).trans ?_
    rw [signs]
    decide
  obtain ⟨rules, compiled, gives⟩ := Collection.compile_ok rfl same small
  have obtained : rules.Obtained := .built compiled
  have distinct : ([first, second].map Block.base).Nodup := by decide
  have thorough : ({ } : ScanFlags).fastMode = false := rfl
  obtain ⟨alone, orderFree⟩ := blocks_independent obtained distinct thorough
  have begins : search rules [first, second] (.new rules 0 { } 1 0 default) =
      scanBlocks rules [first, second] (start rules [] 0 { } 1 0 default) := by
    rw [search, gives.sameExternals]
    rfl
  have strings : rules.strings = #[definition] := gives.sameStrings
  have atFirst : definition.occurrences first = [⟨0, 0, 1, ⟨#[0x41]⟩⟩] := by with_unfolding_all rfl
  have atSecond : definition.occurrences second = [⟨1, 0, 1, ⟨#[0x41]⟩⟩] := by with_unfolding_all rfl
  have known : rules.strings[0]? = some definition := by rw [strings]; rfl
  have inFirst : (foundIn rules 0 first).length ≤ 1 :=
    (length_foundBy_le known).trans (congrArg List.length atFirst).le
  have inSecond : (foundIn rules 0 second).length ≤ 1 :=
    (length_foundBy_le known).trans (congrArg List.length atSecond).le
  have room : HasRoomForBlocks rules [first, second] (start rules [] 0 { } 1 0 default) := by
    constructor
    case each =>
      intro string within
      rw [strings, List.size_toArray, List.length_singleton, Nat.lt_one_iff] at within
      rw [within, ← Context.length_matchesOf, matchesOf_started, List.length_nil, List.flatMap_cons,
        List.flatMap_singleton, List.length_append]
      exact (Nat.add_le_add_left (Nat.add_le_add inFirst inSecond) 0).trans (by decide)
    case all =>
      have count (block : Block) : countIn rules block = (foundIn rules 0 block).length := by
        rw [countIn, strings]
        exact Finset.sum_range_one _
      simp only [List.map_cons, List.map_nil, List.sum_cons, List.sum_nil, count]
      exact (Nat.add_le_add_left (Nat.add_le_add inFirst inSecond) 0).trans (by decide)
  obtain ⟨_, after, searched, _⟩ := (scanBlocks_start rules [] 0 { } 1 0 default
    (candidatesKnown_of_consistent obtained.consistent) rfl distinct).ok ⟨rfl, room⟩
  obtain ⟨each, isEach, whole⟩ := alone 0 1 default after (begins.trans searched) 0 default
  refine ⟨rules, compiled, ?_, after, each, begins.trans searched, isEach, ?_⟩
  · refine (orderFree ?_).2 _ rules compiled .start ?_
    · decide
    · exact List.forall_mem_singleton.mpr ⟨rfl, trivial⟩
  · intro string
    rw [whole, List.flatMap_cons, List.flatMap_singleton]

/-- A condition that is a text asks for nothing. Where its bytes are followed as instructions, these may
ask for the size of the data, which is that of the block that comes first. -/
theorem blocks_independent_disguised :
    let disguise : Disguise := ⟨[.fileSize], by decide +kernel, by decide⟩
    let first : Block := ⟨0, .empty⟩
    let second : Block := ⟨1, ⟨#[0x41]⟩⟩
    let collection := soleCondition (.text disguise.text)
    ∃ rules, collection.compile = .ok rules ∧
      (∀ entry ∈ collection.rules, entry.2.condition.asksData = false) ∧
      ∃ after after' rule,
        gather rules [first, second] (.new rules 0 { } (UInt64.ofNat first.data.size) 0 default) =
          .ok () after ∧
        gather rules [second, first] (.new rules 0 { } (UInt64.ofNat second.data.size) 0 default) =
          .ok () after' ∧
        rules.rules = #[rule] ∧ isMatching after 0 rule = false ∧ isMatching after' 0 rule = true := by
  intro disguise first second collection
  obtain ⟨rules, compiled, gives⟩ := compile_soleText disguise.text
  have thorough : ({ } : ScanFlags).fastMode = false := rfl
  have inRange : ∀ instruction ∈ disguise.code, instruction.InRange 0 1 :=
    List.forall_mem_singleton.mpr trivial
  have puts : ∀ instruction ∈ disguise.code, putsValue instruction = true :=
    List.forall_mem_singleton.mpr rfl
  have computed {size : UInt64} (context : Context) (same : context.fileSize = size) :
      compute rules context [.bytes []] disguise.code =
        .ok [.integer size.toInt64, .bytes []] := by
    rw [← same]
    rfl
  obtain ⟨after, gathered, judged⟩ := disguise.gather_eq_ok gives
    (show ([first, second].map Block.base).Nodup by decide) thorough 0
    (UInt64.ofNat first.data.size) default inRange puts computed
  obtain ⟨after', gathered', judged'⟩ := disguise.gather_eq_ok gives
    (show ([second, first].map Block.base).Nodup by decide) thorough 0
    (UInt64.ofNat second.data.size) default inRange puts computed
  exact ⟨rules, compiled, List.forall_mem_singleton.mpr rfl, after, after', _, gathered, gathered',
    gives.sameRules, judged _, judged' _⟩

end Scan

end ByteScan
