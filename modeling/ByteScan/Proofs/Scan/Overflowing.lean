import ByteScan.Proofs.Scan.Faring
import ByteScan.Proofs.Scan.Namespaces
import ByteScan.Proofs.Scan.Replaying

/-!
# When the stack overflows

A scan of a compiled rule set never finds that the rule set is corrupt, whatever is scanned and however,
provided that no condition needs more room on the stack than there is. Where a condition does, a scan
of no data at all already fails: `runs_iff_roomy`. What is left out are texts whose lengths are no
words of thirty-two bits. The length of such a text is cut off in the code, and the machine takes what
follows for instructions: `evaluate_unsized`.
-/

namespace ByteScan

def IsCorrupt (error : Error) : Prop := ∃ fault, error = .corrupt fault

namespace Scan

variable {rules : RuleSet} {context : Context}

/-! ## Before conditions are evaluated -/

theorem confirmBy_sound {remembers : Nat → Bool} {number : Nat} (known : number < rules.strings.size)
    (unlimited : context.timeout = 0) (block : Block) (offset : Nat) :
    Outcome (fun _ after => after.timeout = 0) (fun error _ => ¬IsCorrupt error)
      (confirmBy remembers rules number block offset context) := by
  rw [confirmBy, Array.getElem?_eq_getElem known]
  dsimp only
  split
  · exact unlimited
  · split
    · exact unlimited
    · rename_i length _
      have limit : (rememberBy remembers number block offset context).timeout = 0 := by
        unfold rememberBy
        split
        · exact unlimited
        · exact unlimited
      obtain ⟨_, _, added⟩ | full := addMatch_cases number (.ofBlock block offset length)
        (rememberBy remembers number block offset context)
      · rw [added]
        exact limit
      · rw [full]
        rintro ⟨_, other⟩
        cases other

theorem keeps_sound (known : rules.CandidatesKnown) :
    Keeps rules.hasMixedBacktrack rules (fun _ => True) (fun context => context.timeout = 0)
      (fun error _ => ¬IsCorrupt error) where
  confirm := fun {block _ _} offset _ listed unlimited =>
    confirmBy_sound (known _ listed) unlimited block offset
  looked := id
  charged := fun _ _ => id
  chargedBad := fun _ _ => id
  late := by
    rintro _ _ ⟨_, other⟩
    cases other
  entered := fun _ => id

theorem bindExternals_sound (unlimited : context.timeout = 0) (externals : List External) :
    Outcome (fun _ after => after.timeout = 0) (fun error _ => ¬IsCorrupt error)
      (Context.bindExternals externals context) := by
  induction externals generalizing context with
  | nil => exact unlimited
  | cons external externals ih =>
      rw [bindExternals_cons]
      dsimp only
      split
      · rintro ⟨_, other⟩
        cases other
      · exact ih unlimited

theorem search_sound (known : rules.CandidatesKnown) (unlimited : context.timeout = 0)
    (blocks : List Block) :
    Outcome (fun _ after => after.timeout = 0) (fun error _ => ¬IsCorrupt error)
      (search rules blocks context) := by
  apply (bindExternals_sound unlimited rules.externals).bind
  intro _ bound unlimited
  have started : Outcome (fun _ after => after.timeout = 0) (fun error _ => ¬IsCorrupt error)
      (Context.startClock bound) := unlimited
  apply started.bind
  intro _ begun unlimited
  rw [← scanBlocksBy_mixed]
  exact (keeps_sound known).scanBlocksBy blocks (fun _ _ => trivial) unlimited

theorem bindExternals_distinct {externals : List External}
    (distinct : firstRepeated? (context.objects.map Prod.fst) (externals.map External.identifier) =
      none) : ∃ after, Context.bindExternals externals context = .ok () after := by
  induction externals generalizing context with
  | nil => exact ⟨context, rfl⟩
  | cons external externals ih =>
      rw [List.map_cons, firstRepeated?] at distinct
      split at distinct
      · cases distinct
      · rename_i isNew
        have free : ¬(context.object? external.identifier).isSome = true := by
          intro bound
          obtain ⟨object, listed, same⟩ := List.lookup_isSome_iff.mp bound
          refine isNew (List.contains_iff_mem.mpr ?_)
          rw [beq_iff_eq.mp same]
          exact List.mem_map_of_mem listed
        rw [bindExternals_cons]
        dsimp only
        rw [if_neg free]
        exact ih distinct

/-! ## What has been compiled -/

/-- A rule set that a collection compiles to, perhaps with other values of external variables. -/
structure Ready (collection : Collection) (compilation : Compilation) (rules : RuleSet) : Prop where
  gives : collection.Gives compilation rules
  numbered : compilation.Numbered collection.rules
  named : compilation.externals.length ≤ rules.externals.length
  distinct : firstRepeated? [] (rules.externals.map External.identifier) = none

theorem exists_ready {collection : Collection} {built : RuleSet}
    (compiled : collection.compile = .ok built) (redefines : built.Redefines rules) :
    ∃ externals compilation, Ready { collection with externals } compilation rules := by
  obtain ⟨distinct, compilation, isCompilation, gives⟩ := Collection.compile_eq_ok compiled
  obtain ⟨numbered, named⟩ := (Compilation.numbered_start _).addRules isCompilation
  obtain ⟨externals, rfl, same⟩ := redefines.exists_externals
  rw [gives.sameExternals] at same
  refine ⟨externals, compilation, { gives with sameExternals := rfl }, numbered, ?_, ?_⟩
  · rw [named, ← same, List.length_map]
    rfl
  · rw [← same] at distinct
    exact distinct

namespace Ready

variable {collection : Collection} {compilation : Compilation}
  (ready : Ready collection compilation rules)
include ready

theorem search_empty (slot : Nat) (clock : Clock) :
    ∃ after, search rules [⟨0, .empty⟩] (.new rules slot { } 0 0 clock) = .ok () after ∧
      after.timeout = 0 ∧ AddressesFit after := by
  obtain ⟨bound, binding⟩ : ∃ after, Context.bindExternals rules.externals
      (.new rules slot { } 0 0 clock) = .ok () after := bindExternals_distinct ready.distinct
  obtain ⟨objects, others⟩ := bindExternals_eq_ok binding
  have begins : search rules [⟨0, .empty⟩] (.new rules slot { } 0 0 clock) =
      scanBlocks rules [⟨0, .empty⟩] (start rules objects slot { } 0 0 clock) := by
    rw [search, bind_of_ok (others _ rfl)]
    rfl
  have room : HasRoomForBlocks rules [⟨0, .empty⟩] (start rules objects slot { } 0 0 clock) :=
    hasRoom_start rules objects slot { } 0 0 clock (Nat.zero_le _) (Nat.zero_le _)
  obtain ⟨_, after, ended, scanned, _⟩ := (scanBlocks_start rules objects slot { } 0 0 clock
    ready.gives.candidatesKnown rfl (by decide)).ok ⟨rfl, room⟩
  exact ⟨after, begins.trans ended, scanned.timeout, scanned.addressesFit (by decide)⟩

variable (literals : ∀ entry ∈ collection.rules, entry.2.condition.LiteralsFit)
include literals

/-- Without a time limit, a scan shows that the rule set is corrupt only where the stack overflows. -/
theorem gather_sound (unlimited : context.timeout = 0) (blocks : List Block) :
    Outcome (fun _ _ => Roomy collection.rules)
      (fun error _ => IsCorrupt error → error = codeError .stackOverflow ∧ ¬Roomy collection.rules)
      (gather rules blocks context) := by
  rw [gather_eq]
  apply Outcome.bind ((search_sound ready.gives.candidatesKnown unlimited blocks).imp
    (fun _ _ => id) fun _ _ sound isCorrupt => absurd isCorrupt sound)
  intro _ after unlimited
  refine (evaluate_fares ready.gives ready.numbered ready.named literals unlimited).imp
    (fun _ _ => id) ?_
  rintro error _ (overflows | ⟨rfl, _⟩) ⟨_, isCorrupt⟩
  · exact overflows
  · cases isCorrupt

theorem gather_corrupt {blocks : List Block} {slot : Nat} {flags : ScanFlags} {fileSize : UInt64}
    {timeout : Nanoseconds} {clock : Clock} {fault : Corruption} {after : Context}
    (failed : gather rules blocks (.new rules slot flags fileSize timeout clock) =
      .error (.corrupt fault) after) : ¬Roomy collection.rules := by
  have tracks := gather_untimed rules blocks slot flags fileSize timeout clock clock
  rw [failed] at tracks
  obtain ⟨after', failed'⟩ := tracks.same_error fun excused => by cases excused.1
  have unlimited : (Context.new rules slot flags fileSize 0 clock).timeout = 0 := rfl
  have sound := ready.gather_sound literals unlimited blocks
  rw [failed'] at sound
  exact (sound ⟨fault, rfl⟩).2

/-- Where a condition needs too much room, a scan of no data at all fails. -/
theorem gather_overflows (tooMuch : ¬Roomy collection.rules) (slot : Nat) (clock : Clock) :
    ∃ after, gather rules [⟨0, .empty⟩] (.new rules slot { } 0 0 clock) =
      .error (codeError .stackOverflow) after := by
  obtain ⟨middle, searched, unlimited, addresses⟩ := ready.search_empty slot clock
  have fares := evaluate_fares ready.gives ready.numbered ready.named literals unlimited
  rw [gather_eq, bind_of_ok searched]
  cases evaluated : evaluate rules middle with
  | ok _ after =>
      rw [evaluated] at fares
      exact absurd fares tooMuch
  | error error after =>
      rw [evaluated] at fares
      obtain ⟨rfl, _⟩ | ⟨_, beyond⟩ := fares
      · exact ⟨after, rfl⟩
      · exact absurd addresses beyond

end Ready

/-! ## Whole scans -/

section

variable {blocks : List Block} {flags : ScanFlags} {timeout : Nanoseconds} {clock : Clock}

theorem gather_of_corrupt {listener : Listener σ} {activity : Activity} {memory : σ} {fault : Corruption}
    (failed : (run rules blocks flags timeout clock listener (activity, memory)).1 =
      .error (.corrupt fault)) :
    ∃ slot fileSize after, gather rules blocks (.new rules slot flags fileSize timeout clock) =
      .error (.corrupt fault) after := by
  cases blocks with
  | nil => cases failed
  | cons first rest =>
      cases acquired : activity.slots.acquire? with
      | none =>
          rw [run, withSlot_eq, acquired] at failed
          cases failed
      | some taken =>
          obtain ⟨slot, slots⟩ := taken
          cases gathered : gather rules (first :: rest)
              (.new rules slot flags (UInt64.ofNat first.data.size) timeout clock) with
          | error error after =>
              rw [run_eq_deliver acquired gathered, told, deliver_error acquired] at failed
              cases failed
              exact ⟨slot, _, after, gathered⟩
          | ok _ after =>
              rw [run_eq_deliver acquired gathered, deliver, withSlot_eq, acquired] at failed
              obtain ⟨_, _, heard⟩ := announce_heard listener (verdicts rules after) _
              rw [show (announce listener (verdicts rules after) _).1 = _ from failed] at heard
              cases heard.error_eq

theorem run_of_gather {error : Error} {after : Context}
    (failed : gather rules [⟨0, .empty⟩] (.new rules 0 { } 0 0 clock) = .error error after)
    (listener : Listener σ) (memory : σ) :
    (run rules [⟨0, .empty⟩] { } 0 clock listener (.idle rules, memory)).1 = .error error := by
  have acquired : (Activity.idle rules).slots.acquire? = some (0, ⟨1⟩) :=
    show Slots.empty.acquire? = some (0, ⟨1⟩) by decide
  rw [run_eq_deliver acquired failed, told, deliver_error acquired]

end

/-! ## Conditions beyond the limits -/

/-- A condition in which the right operand is nested so many times. -/
def nested : Nat → Condition
  | 0 => .truth true
  | depth + 1 => .and (.truth true) (nested depth)

theorem stackNeed_nested (depth : Nat) : (nested depth).stackNeed = depth + 1 := by
  induction depth with
  | zero => rfl
  | succ depth ih =>
      rw [nested, Condition.stackNeed, ih]
      exact Nat.max_eq_right (Nat.le_add_left _ _)

theorem literalsFit_nested (depth : Nat) : (nested depth).LiteralsFit := by
  induction depth with
  | zero => trivial
  | succ depth ih => exact ⟨trivial, ih⟩

theorem code_nested (depth : Nat) : ∃ code, ∀ scope, (nested depth).code scope = .ok code := by
  induction depth with
  | zero => exact ⟨_, fun _ => rfl⟩
  | succ depth ih =>
      obtain ⟨code, isCode⟩ := ih
      refine ⟨[.pushBoolean true] ++ code ++ [.and], fun scope => ?_⟩
      rw [nested, Condition.code, isCode]
      rfl

theorem roomy_soleCondition {condition : Condition} :
    Roomy (soleCondition condition).rules ↔ condition.stackNeed ≤ stackLimit :=
  List.forall_mem_singleton

theorem literalsFit_soleCondition {condition : Condition} :
    (∀ entry ∈ (soleCondition condition).rules, entry.2.condition.LiteralsFit) ↔
      condition.LiteralsFit :=
  List.forall_mem_singleton

/-- The code of a text whose length is cut off is taken for the code of an empty text, and what the
text says is taken for instructions. -/
theorem evaluate_unsized {collection : Collection} {compilation : Compilation}
    (gives : collection.Gives compilation rules) {more : List UInt8}
    (coded : compilation.code = [[.pushBytes (0x61 :: more)] ++ [.verdict 0]])
    (unsized : UInt32.ofNat (more.length + 1) = 0) (unlimited : context.timeout = 0) :
    ∃ after, evaluate rules context = .error (codeError (.unknownKind 0x61 5)) after := by
  have coded' : compilation.code.reverse.flatten = .pushBytes (0x61 :: more) :: [.verdict 0] := by
    rw [coded]
    rfl
  obtain ⟨left, timer, clock, enough, followed⟩ := exists_follow_unsized gives coded' unsized unlimited
  have unlimited' : { context with clock }.timeout = 0 := unlimited
  obtain ⟨left', rfl⟩ := Nat.exists_eq_succ_of_ne_zero (Nat.ne_zero_of_lt enough)
  exact ⟨_, followed.trans (follow_fault unlimited' rfl _)⟩

def letters (count : Nat) : String := .ofList (List.replicate count 'a')

theorem toUTF8_letters (count : Nat) : (letters count).toUTF8.toList = List.replicate count 0x61 := by
  have one : String.utf8EncodeChar 'a' = [0x61] := by decide
  rw [letters, Text.toUTF8_ofList, List.flatMap_replicate, one, List.flatten_replicate_singleton]

/-! ## Compiled rule sets -/

/-- Scans of a compiled rule set never find it corrupt if and only if the stack has room for what each
condition needs, provided that the lengths of all texts are words of thirty-two bits. -/
theorem runs_iff_roomy {collection : Collection} {built : RuleSet}
    (compiled : collection.compile = .ok built) (redefines : built.Redefines rules)
    (literals : ∀ entry ∈ collection.rules, entry.2.condition.LiteralsFit) :
    (∀ entry ∈ collection.rules, entry.2.condition.stackNeed ≤ stackLimit) ↔
      ∀ blocks flags timeout clock (σ : Type) (listener : Listener σ) (shared : Activity × σ) fault,
        (run rules blocks flags timeout clock listener shared).1 ≠ .error (.corrupt fault) := by
  obtain ⟨externals, compilation, ready⟩ := exists_ready compiled redefines
  constructor
  · intro roomy blocks flags timeout clock σ listener shared fault failed
    obtain ⟨_, _, _, gathered⟩ := gather_of_corrupt failed
    exact ready.gather_corrupt literals gathered roomy
  · intro runs
    by_contra tooMuch
    obtain ⟨_, gathered⟩ := ready.gather_overflows literals tooMuch 0 default
    exact runs _ _ _ _ Unit (fun _ => pure .proceed) _ _ (run_of_gather gathered _ ())

/-- A condition that fills the stack, and no more. -/
theorem runs_nested : ∃ rules, (soleCondition (nested 16383)).compile = .ok rules ∧
    rules.Redefines rules ∧
    (∀ entry ∈ (soleCondition (nested 16383)).rules, entry.2.condition.LiteralsFit) ∧
    ∀ blocks flags timeout clock (σ : Type) (listener : Listener σ) (shared : Activity × σ) fault,
      (run rules blocks flags timeout clock listener shared).1 ≠ .error (.corrupt fault) := by
  obtain ⟨code, isCode⟩ := code_nested 16383
  obtain ⟨rules, compiled, _⟩ := compile_soleCondition isCode
  have literals := literalsFit_soleCondition.mpr (literalsFit_nested 16383)
  have roomy := roomy_soleCondition.mpr (stackNeed_nested 16383).le
  exact ⟨rules, compiled, .start, literals, (runs_iff_roomy compiled .start literals).mp roomy⟩

/-- Nested once more, the condition overflows the stack. A text of as many letters as a word of
thirty-two bits has values is taken for instructions. -/
theorem compiled_corrupt :
    (∃ rules, (soleCondition (nested 16384)).compile = .ok rules ∧
      (run rules [⟨0, .empty⟩] { } 0 default (fun _ => pure .proceed : Listener Unit)
        (.idle rules, ())).1 = .error (.corrupt (.code .stackOverflow))) ∧
    ∃ rules, (soleCondition (.text (letters UInt32.size))).compile = .ok rules ∧
      (run rules [⟨0, .empty⟩] { } 0 default (fun _ => pure .proceed : Listener Unit)
        (.idle rules, ())).1 = .error (.corrupt (.code (.unknownKind 0x61 5))) := by
  constructor
  · obtain ⟨code, isCode⟩ := code_nested 16384
    obtain ⟨rules, compiled, _⟩ := compile_soleCondition isCode
    obtain ⟨_, _, ready⟩ := exists_ready compiled .start
    have tooMuch : ¬Roomy (soleCondition (nested 16384)).rules := by
      rw [roomy_soleCondition, stackNeed_nested]
      decide
    obtain ⟨_, gathered⟩ := ready.gather_overflows
      (literalsFit_soleCondition.mpr (literalsFit_nested 16384)) tooMuch 0 default
    exact ⟨rules, compiled, run_of_gather gathered _ ()⟩
  · obtain ⟨more, bytes, count⟩ : ∃ more, (letters UInt32.size).toUTF8.toList = 0x61 :: more ∧
        more.length + 1 = UInt32.size := by
      obtain ⟨count, same⟩ := Nat.exists_eq_succ_of_ne_zero (show UInt32.size ≠ 0 by decide)
      rw [same, toUTF8_letters]
      exact ⟨List.replicate count 0x61, List.replicate_succ, congrArg (· + 1) List.length_replicate⟩
    have isCode (scope : Scope) : (Condition.text (letters UInt32.size)).code scope =
        .ok [.pushBytes (0x61 :: more)] := by
      rw [Condition.code, bytes]
    obtain ⟨rules, compiled, gives⟩ := compile_soleCondition isCode
    obtain ⟨_, _, ready⟩ := exists_ready compiled .start
    obtain ⟨_, searched, unlimited, _⟩ := ready.search_empty 0 default
    obtain ⟨after, evaluated⟩ := evaluate_unsized gives rfl (by rw [count]; rfl) unlimited
    have gathered := (congrFun (gather_eq rules [⟨0, .empty⟩]) _).trans
      ((bind_of_ok searched).trans evaluated)
    exact ⟨rules, compiled, run_of_gather gathered _ ()⟩

end Scan

end ByteScan
