import ByteScan.Proofs.Scan.Agreeing
import ByteScan.Proofs.Scan.Shuffling

/-!
# Namespaces by themselves

A rule set for one namespace of a collection tells a listener what the rule set for the whole collection
tells about this namespace, in the same order and with the same matches: `namespaces_independent`. Only
the numbers that a rule set gives to its namespaces, rules and strings are different.
-/

namespace ByteScan

/-! ## Messages without numbers -/

def Verdict.unnumbered (verdict : Verdict) : Verdict where
  rule := verdict.rule.unnumbered
  space := verdict.space
  found := verdict.found.map fun entry => (entry.1.unnumbered, entry.2)

def Message.unnumbered : Message → Message
  | .matching verdict => .matching verdict.unnumbered
  | .notMatching verdict => .notMatching verdict.unnumbered
  | .finished => .finished

def Message.isVerdict : Message → Bool
  | .matching _ | .notMatching _ => true
  | .finished => false

def Message.isOn (space : String) : Message → Bool
  | .matching verdict | .notMatching verdict => verdict.space == space
  | .finished => false

namespace Scan

variable {collection : Collection} {space : String} {selection : Selection}
  {compilation compilation' : Compilation} {whole part : RuleSet} {first second : Context}

theorem isOn_messageOn (rules : RuleSet) (context : Context) (number : Nat) (rule : Rule)
    (space : String) :
    (messageOn rules context number rule).isOn space = (rules.spaceOf rule == space) := by
  unfold messageOn
  dsimp only
  split <;> rfl

theorem isVerdict_messageOn (rules : RuleSet) (context : Context) (number : Nat) (rule : Rule) :
    (messageOn rules context number rule).isVerdict = true := by
  unfold messageOn
  dsimp only
  split <;> rfl

theorem filter_verdicts (rules : RuleSet) (context : Context) {property : Message → Bool}
    {keeps : Rule → Bool}
    (tells : ∀ number rule, property (messageOn rules context number rule) = keeps rule) :
    ((verdicts rules context).filter property).map Message.unnumbered =
      rules.rules.toList.zipIdx.filterMap fun entry =>
        if keeps entry.1 && !entry.1.isPrivate then
          some (messageOn rules context entry.2 entry.1).unnumbered
        else none := by
  rw [verdicts, List.filter_map, List.filter_filter, List.map_map, ← List.filterMap_eq_map,
    List.filterMap_filter]
  refine List.filterMap_congr fun entry _ => ?_
  rw [Function.comp_apply, tells]
  rfl

section

variable (restriction : Restriction collection space selection compilation compilation' whole part)
  (agrees : Agrees space selection whole part first second)
include restriction agrees

theorem Agrees.foundStrings_eq {entry twin : Rule}
    (strings : List.Forall₂ (fun number index => selection.strings[index]? = some number)
      entry.strings twin.strings) :
    (foundStrings whole first entry).map (fun found => (found.1.unnumbered, found.2)) =
      (foundStrings part second twin).map fun found => (found.1.unnumbered, found.2) := by
  rw [foundStrings, foundStrings, List.map_filterMap, List.map_filterMap]
  rw [← List.forall₂_eq_eq_eq]
  refine List.rel_filterMap ?_ strings
  intro number index listed
  obtain ⟨string, definition, isString, isDefinition, alike⟩ :=
    restriction.excerpt.alike index number listed
  dsimp only
  rw [agrees.echo.matchCount_eq listed, agrees.echo.found index number listed, isString, isDefinition]
  split
  · exact .none
  · exact .some (Prod.ext alike rfl)

theorem Agrees.messageOn_eq {entry twin : Rule × Nat}
    (same : RuleTwin space selection compilation compilation' entry twin) :
    (messageOn whole first entry.2 entry.1).unnumbered =
      (messageOn part second twin.2 twin.1).unnumbered := by
  have inWhole : whole.spaces[entry.1.space]? = some space := by
    rw [restriction.gives.sameSpaces]
    exact same.inWhole
  have inPart : part.spaces[twin.1.space]? = some space := by
    rw [restriction.gives'.sameSpaces]
    exact same.inPart
  have sameSpace : whole.spaceOf entry.1 = part.spaceOf twin.1 := by
    simp only [RuleSet.spaceOf, Array.getD_eq_getD_getElem?, inWhole, inPart]
  have matching : isMatching first entry.2 entry.1 = isMatching second twin.2 twin.1 := by
    rw [isMatching, isMatching, agrees.matched _ _ same.listed, agrees.unsatisfied _ _ inPart inWhole]
  have found := agrees.foundStrings_eq restriction same.strings
  have alike := same.alike
  unfold messageOn
  rw [matching, sameSpace]
  dsimp only
  split
  · simp only [Message.unnumbered, Verdict.unnumbered, found, alike]
  · simp only [Message.unnumbered, Verdict.unnumbered, found, alike]

theorem Agrees.verdicts_eq :
    ((verdicts part second).filter Message.isVerdict).map Message.unnumbered =
      ((verdicts whole first).filter (Message.isOn space)).map Message.unnumbered := by
  have inPart := filter_verdicts part second (isVerdict_messageOn part second)
  have inWhole := filter_verdicts whole first fun number rule =>
    isOn_messageOn whole first number rule space
  rw [inPart, inWhole, restriction.gives.sameRules, restriction.gives'.sameRules]
  refine (restriction.selected.rules.filterMap_eq ?_ ?_).symm
  · intro entry twin same
    have isSpace : whole.spaceOf entry.1 = space := by
      rw [RuleSet.spaceOf, restriction.gives.sameSpaces, Array.getD_eq_getD_getElem?, same.inWhole,
        Option.getD_some]
    have isPrivate : entry.1.isPrivate = twin.1.isPrivate :=
      (congrArg Rule.isPrivate same.alike :)
    rw [isSpace, isPrivate, BEq.rfl, agrees.messageOn_eq restriction same]
  · intro entry left
    obtain ⟨other, inOther, different⟩ := left.elsewhere
    have isOther : whole.spaceOf entry.1 = other := by
      rw [RuleSet.spaceOf, restriction.gives.sameSpaces, Array.getD_eq_getD_getElem?, inOther,
        Option.getD_some]
    rw [isOther, beq_eq_false_iff_ne.mpr different, Bool.false_and]
    rfl

end

/-! ## Listeners -/

variable {listener : Listener σ} {rules : RuleSet} {context : Context}

/-- A run that succeeds has its verdicts. -/
theorem gather_of_run {block : Block} {blocks : List Block} {flags : ScanFlags} {clock : Clock}
    {activity : Activity} {memory : σ} {final : Activity × σ}
    (ran : run rules (block :: blocks) flags 0 clock listener (activity, memory) = (.ok (), final)) :
    ∃ slot slots context, activity.slots.acquire? = some (slot, slots) ∧
      gather rules (block :: blocks)
        (.new rules slot flags (UInt64.ofNat block.data.size) 0 clock) = .ok () context := by
  have running : run rules (block :: blocks) flags 0 clock listener (activity, memory) =
      withSlot (fun slot => report rules (block :: blocks)
        (Context.new rules slot flags (UInt64.ofNat block.data.size) 0 clock) listener)
        (activity, memory) := rfl
  rw [running, withSlot_eq] at ran
  cases acquired : activity.slots.acquire? with
  | none =>
      rw [acquired] at ran
      cases ran
  | some both =>
      obtain ⟨slot, slots⟩ := both
      rw [acquired] at ran
      dsimp only at ran
      cases gathered : gather rules (block :: blocks)
          (.new rules slot flags (UInt64.ofNat block.data.size) 0 clock) with
      | ok _ context => exact ⟨slot, slots, context, rfl, gathered⟩
      | error error context =>
          rw [report, gathered] at ran
          cases ran

theorem gather_ok_of_room {collection : Collection} (compiled : collection.compile = .ok rules)
    (fits : rules.FitsWords) (evaluable : collection.Evaluable) (noExternals : rules.externals = [])
    {blocks : List Block} (distinct : (blocks.map Block.base).Nodup)
    (addressed : ∀ block ∈ blocks, block.Fits) {slot : Nat} {flags : ScanFlags} {fileSize : UInt64}
    {clock : Clock} (thorough : flags.fastMode = false)
    (room : HasRoomForBlocks rules blocks (start rules [] slot flags fileSize 0 clock)) :
    ∃ after, gather rules blocks (.new rules slot flags fileSize 0 clock) = .ok () after := by
  have known := candidatesKnown_of_consistent (Collection.consistent compiled)
  obtain ⟨_, scanned, searched, found, _⟩ :=
    (scanBlocks_start rules [] slot flags fileSize 0 clock known thorough distinct).ok ⟨rfl, room⟩
  have untouched := untouched_of_scanBlocks searched
  obtain ⟨after, evaluated, _⟩ := evaluate_judged compiled fits evaluable untouched.matched
    untouched.unsatisfied untouched.timeout (found.addressesFit addressed)
  have begins : search rules blocks (.new rules slot flags fileSize 0 clock) =
      scanBlocks rules blocks (start rules [] slot flags fileSize 0 clock) := by
    rw [search, noExternals]
    rfl
  refine ⟨after, ?_⟩
  rw [gather_eq, bind_of_ok (begins.trans searched), evaluated]

/-! ## Independence -/

/-- Whatever blocks are scanned, a rule set tells of a namespace what another one tells of it, unless that
one fails. It is told to listeners that want to go on. -/
def TellsOf (space : String) (whole part : RuleSet) : Prop :=
  ∀ (σ τ : Type) (listener : Listener σ) (listener' : Listener τ), Tireless listener →
    Tireless listener' → ∀ blocks flags clock activity memory activity₁ memory₁ log,
      run whole blocks flags 0 clock (recording listener) (activity, memory, []) =
        (.ok (), activity₁, memory₁, log) →
      ∀ clock' activity' memory', activity'.slots.acquire?.isSome →
        ∃ activity₂ memory₂ log',
          run part blocks flags 0 clock' (recording listener') (activity', memory', []) =
            (.ok (), activity₂, memory₂, log') ∧
          (log'.filter Message.isVerdict).map Message.unnumbered =
            (log.filter (Message.isOn space)).map Message.unnumbered

theorem tellsOf_of_restriction
    (restriction : Restriction collection space selection compilation compilation' whole part) :
    TellsOf space whole part := by
  intro σ τ listener listener' tireless tireless' blocks flags clock activity memory activity₁ memory₁
    log ran clock' activity' memory' free
  cases blocks with
  | nil =>
      cases ran
      exact ⟨activity', memory', [], rfl, rfl⟩
  | cons block blocks =>
      obtain ⟨slot, slots, first, acquired, gathered⟩ := gather_of_run ran
      obtain ⟨_, _, told⟩ := run_recording tireless acquired gathered memory
      obtain ⟨⟨slot', slots'⟩, acquired'⟩ := Option.isSome_iff_exists.mp free
      obtain ⟨second, gathered', agrees⟩ := gather_agrees restriction gathered slot' clock'
      obtain ⟨activity₂, memory₂, told'⟩ := run_recording tireless' acquired' gathered' memory'
      refine ⟨activity₂, memory₂, _, told', ?_⟩
      rw [told] at ran
      cases ran
      rw [List.filter_append, List.filter_append, List.map_append, List.map_append,
        agrees.verdicts_eq restriction]
      rfl

/-- Namespaces do not interfere. If a collection compiles, the rules of a namespace compile by themselves,
unless the table of their automaton is too large, which takes that the reaches of all states of the
automaton for the collection would be. Where numbers and literals fit into words, what the rule set for
the collection tells of the namespace, the rule set for the namespace tells of it: the same rules with the
same verdicts and the same matches of their strings in the same order. -/
theorem namespaces_independent {collection : Collection} {whole : RuleSet}
    (compiled : collection.compile = .ok whole) (space : String) :
    (∃ part, (collection.only space).compile = .ok part ∧
      (whole.FitsWords → (∀ entry ∈ collection.rules, entry.2.condition.LiteralsFit) →
        TellsOf space whole part)) ∨
      ((collection.only space).compile = .error (.rules .insufficientMemory) ∧
        Automaton.tableLimit < whole.automaton.stateCount * stateSpan) := by
  obtain ⟨distinct, compilation, same, gives⟩ := Collection.compile_eq_ok compiled
  obtain ⟨numbered, _⟩ := (Compilation.numbered_start _).addRules same
  rcases Collection.compile_only distinct same gives space with
    large | ⟨selection, compilation', part, compiled', gives', same', selected⟩
  · exact .inr large
  · obtain ⟨numbered', _⟩ := (Compilation.numbered_start _).addRules same'
    refine .inl ⟨part, compiled', fun fits literals => ?_⟩
    have restriction : Restriction collection space selection compilation compilation' whole part :=
      ⟨gives, gives', selected, numbered, numbered', fits, literals⟩
    exact tellsOf_of_restriction restriction

/-- Of two namespaces whose strings begin alike, one is void and the other one is told of all the same. -/
theorem namespaces_independent_void :
    let short : StringDecl := ⟨"a", .text "A", { }⟩
    let long : StringDecl := ⟨"a", .text "AB", { }⟩
    let first : RuleDecl := ⟨"first", none, false, false, [], [short], .found "a"⟩
    let never : RuleDecl := ⟨"never", none, false, true, [], [long], .not (.found "a")⟩
    let second : RuleDecl := ⟨"second", none, false, false, [], [long], .and (.rule "first") (.found "a")⟩
    let collection : Collection := { rules := [("one", first), ("two", never), ("one", second)] }
    let listener : Listener Unit := fun _ state => (.proceed, state)
    ∃ whole part, collection.compile = .ok whole ∧ (collection.only "one").compile = .ok part ∧
      ∃ activity activity' log log',
        run whole [⟨0, ⟨#[0x41, 0x42]⟩⟩] { } 0 default (recording listener) (.idle whole, (), []) =
          (.ok (), activity, (), log) ∧
        run part [⟨0, ⟨#[0x41, 0x42]⟩⟩] { } 0 default (recording listener) (.idle part, (), []) =
          (.ok (), activity', (), log') ∧
        (log'.filter Message.isVerdict).map Message.unnumbered =
          (log.filter (Message.isOn "one")).map Message.unnumbered ∧
        (log'.filter Message.isVerdict).length = 2 := by
  intro short long first never second collection listener
  let definitions : Array StringDef := #[⟨"a", 0, { }, .text [0x41]⟩,
    ⟨"a", 1, { }, .text [0x41, 0x42]⟩, ⟨"a", 2, { }, .text [0x41, 0x42]⟩]
  have same : collection.compilation =
      .ok ⟨#["one", "two"],
        #[⟨"first", 0, false, false, [0], []⟩, ⟨"never", 1, false, true, [1], []⟩,
          ⟨"second", 0, false, false, [2], []⟩], definitions,
        [[.rule 0, .found 2, .and, .verdict 2], [.found 1, .not, .verdict 1], [.found 0, .verdict 0]],
        []⟩ := by with_unfolding_all rfl
  have signs : signsOf definitions.toList =
      [⟨[0x41], 1, 0⟩, ⟨[0x41, 0x42], 2, 1⟩, ⟨[0x41, 0x42], 2, 2⟩] := by with_unfolding_all rfl
  have cells (strings : Nat) :
      (Automaton.tablesOf (signsOf definitions.toList) strings).cells.size ≤ 2313 := by
    refine (Automaton.size_cells_le _ _).trans ?_
    rw [signs]
    decide
  obtain ⟨whole, compiled, gives⟩ := Collection.compile_ok rfl same ((cells 3).trans (by decide))
  have fits : whole.FitsWords :=
    ⟨by rw [gives.sameStrings]; decide, by rw [gives.sameRules]; decide,
      by rw [gives.sameExternals]; decide, by rw [gives.sameRules]; decide⟩
  have literals : ∀ entry ∈ collection.rules, entry.2.condition.LiteralsFit := by
    simp [collection, first, never, second, Condition.LiteralsFit]
  have evaluable : collection.Evaluable := ⟨by decide, literals⟩
  have states : whole.automaton.stateCount ≤ 2314 := by
    have tables := (Automaton.of_ofSigns gives.built).2
    rw [gives.sameStrings] at tables
    refine (Automaton.stateCount_le _).trans (Nat.succ_le_succ ?_)
    rw [tables]
    exact cells 3
  have room : HasRoomForBlocks whole [⟨0, ⟨#[0x41, 0x42]⟩⟩] (start whole [] 0 { } 2 0 default) := by
    refine hasRoom_start whole [] 0 { } 2 0 default (by decide) ?_
    rw [gives.sameStrings]
    decide
  obtain ⟨after, gathered⟩ := gather_ok_of_room compiled fits evaluable gives.sameExternals
    (by decide) (by decide) rfl room
  have tireless : Tireless listener := fun _ _ => rfl
  have free : Slots.empty.acquire? = some (0, ⟨1⟩) := by decide
  have acquired : (Activity.idle whole).slots.acquire? = some (0, ⟨1⟩) := free
  obtain ⟨activity, _, ran⟩ := run_recording tireless acquired gathered ()
  rcases namespaces_independent compiled "one" with ⟨part, compiled', tells⟩ | ⟨_, large⟩
  · replace tells := tells fits literals
    have isFree : (Activity.idle part).slots.acquire?.isSome = true := congrArg Option.isSome free
    obtain ⟨activity', _, log', ran', told⟩ := tells Unit Unit listener listener tireless tireless _ _ _
      _ _ _ _ _ ran default (.idle part) () isFree
    refine ⟨whole, part, compiled, compiled', activity, activity', _, log', ran, ran', told, ?_⟩
    rw [← List.length_map Message.unnumbered, told, List.filter_append, List.map_append]
    have inWhole := filter_verdicts whole after fun number rule =>
      isOn_messageOn whole after number rule "one"
    rw [inWhole, gives.sameRules]
    simp [RuleSet.spaceOf, gives.sameSpaces, Message.isOn]
  · exact absurd large (Nat.not_lt.mpr ((Nat.mul_le_mul_right _ states).trans (by decide)))

/-- A rule whose condition is a text says nothing of other namespaces. Where its bytes are followed as
instructions, these may end the code before the rules of another namespace. -/
theorem namespaces_independent_disguised :
    let disguise : Disguise := ⟨[.pushBoolean true], by decide +kernel, by decide⟩
    let first : RuleDecl := ⟨"r", none, false, false, [], [], .text disguise.text⟩
    let second : RuleDecl := ⟨"s", none, false, false, [], [], .truth true⟩
    let collection : Collection := { rules := [("two", first), ("one", second)] }
    ∃ whole part, collection.compile = .ok whole ∧ (collection.only "one").compile = .ok part ∧
      ¬TellsOf "one" whole part := by
  intro disguise first second collection
  have same : collection.compilation =
      .ok ⟨#["two", "one"], #[⟨"r", 0, false, false, [], []⟩, ⟨"s", 1, false, false, [], []⟩], #[],
        [[.pushBoolean true, .verdict 1],
          [.pushBytes disguise.text.toUTF8.toList] ++ [.verdict 0]], []⟩ := by
    have isCode (scope : Scope) : first.condition.code scope =
        .ok [.pushBytes disguise.text.toUTF8.toList] := rfl
    have earlier : Compilation.addRule ⟨#[], #[], #[], [], []⟩ "two" first =
        .ok ⟨#["two"], #[⟨"r", 0, false, false, [], []⟩], #[],
          [[.pushBytes disguise.text.toUTF8.toList] ++ [.verdict 0]], []⟩ :=
      addRule_first isCode "two" [] rfl
    have later (code : List Instruction) : Compilation.addRule
        ⟨#["two"], #[⟨"r", 0, false, false, [], []⟩], #[], [code], []⟩ "one" second =
          .ok ⟨#["two", "one"], #[⟨"r", 0, false, false, [], []⟩, ⟨"s", 1, false, false, [], []⟩], #[],
            [[.pushBoolean true, .verdict 1], code], []⟩ := by with_unfolding_all rfl
    change Compilation.addRules ⟨#[], #[], #[], [], []⟩ [_, _] = _
    rw [Compilation.addRules, earlier]
    dsimp only
    rw [Compilation.addRules, later]
    rfl
  have only : collection.only "one" = { rules := [("one", second)] } := by
    simp [collection, Collection.only]
  have same' : (collection.only "one").compilation =
      .ok ⟨#["one"], #[⟨"s", 0, false, false, [], []⟩], #[], [[.pushBoolean true, .verdict 0]], []⟩ := by
    rw [only]
    with_unfolding_all rfl
  have small : (Automaton.tablesOf (signsOf []) 0).cells.size ≤ Automaton.tableLimit :=
    (Automaton.size_cells_le _ _).trans (by decide)
  obtain ⟨whole, compiled, gives⟩ := Collection.compile_ok rfl same small
  obtain ⟨part, compiled', gives'⟩ := Collection.compile_ok rfl same' small
  have distinct : ([(⟨0, .empty⟩ : Block)].map Block.base).Nodup := List.nodup_singleton _
  have thorough : ({ } : ScanFlags).fastMode = false := rfl
  obtain ⟨scanned, gathering, untouched, _⟩ := gather_of_no_strings gives.candidatesKnown
    gives.sameStrings gives.sameExternals distinct thorough 0 0 default
  have isFirst : whole.rules[0]? = some ⟨"r", 0, false, false, [], []⟩ := by
    rw [gives.sameRules]
    rfl
  have inRange : ∀ instruction ∈ disguise.code,
      instruction.InRange whole.strings.size whole.rules.size :=
    List.forall_mem_singleton.mpr trivial
  have puts : ∀ instruction ∈ disguise.code, putsValue instruction = true :=
    List.forall_mem_singleton.mpr rfl
  obtain ⟨after, evaluated, judged⟩ := disguise.evaluate_eq_ok gives rfl isFirst rfl
    ⟨untouched.matched, untouched.unsatisfied⟩ untouched.timeout inRange puts fun _ => rfl
  have fits : part.FitsWords :=
    ⟨by rw [gives'.sameStrings]; decide, by rw [gives'.sameRules]; decide,
      by rw [gives'.sameExternals]; decide, by rw [gives'.sameRules]; decide⟩
  have evaluable : (collection.only "one").Evaluable := by
    rw [only]
    exact ⟨by decide, List.forall_mem_singleton.mpr trivial⟩
  obtain ⟨after', gathered'⟩ := gather_ok_of_no_strings compiled' fits evaluable gives'.sameStrings
    gives'.sameExternals 0 { } 0 default rfl ⟨0, .empty⟩
  let listener : Listener Unit := fun _ state => (.proceed, state)
  have tireless : Tireless listener := fun _ _ => rfl
  have free : Slots.empty.acquire? = some (0, ⟨1⟩) := by decide
  have acquired : (Activity.idle whole).slots.acquire? = some (0, ⟨1⟩) := free
  have acquired' : (Activity.idle part).slots.acquire? = some (0, ⟨1⟩) := free
  obtain ⟨activity, _, ran⟩ := run_recording tireless acquired (gathering.trans evaluated) ()
  obtain ⟨activity', _, ran'⟩ := run_recording tireless acquired' gathered' ()
  refine ⟨whole, part, compiled, compiled', fun tells => ?_⟩
  obtain ⟨_, _, log', ran'', told⟩ := tells Unit Unit listener listener tireless tireless _ _ _
      _ _ _ _ _ ran default (.idle part) () (congrArg Option.isSome acquired')
  rw [ran'] at ran''
  cases ran''
  have inPart : verdicts part after' = [.matching ⟨⟨"s", 0, false, false, [], []⟩, "one", []⟩] := by
    have isTrue : Collection.truth { rules := [("one", second)] } part after' 0 = true := by
      rw [Collection.truth]
      rfl
    rw [verdicts_of_gather compiled' fits evaluable.literals gathered', Collection.announced,
      gives'.sameRules, only]
    simp [second, isTrue, Collection.isVoid, foundStrings]
  have inWhole : verdicts whole after = [messageOn whole after 0 ⟨"r", 0, false, false, [], []⟩,
      messageOn whole after 1 ⟨"s", 1, false, false, [], []⟩] := by
    rw [verdicts, gives.sameRules]
    rfl
  rw [inPart, inWhole] at told
  simp [messageOn, judged, List.filter_cons, Message.isOn, Message.isVerdict, Message.unnumbered,
    RuleSet.spaceOf, gives.sameSpaces, Value.isTruthy] at told

end Scan

end ByteScan
