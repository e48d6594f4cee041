import ByteScan.Proofs.RuleFile.RoundTrip
import ByteScan.Proofs.Text.Ascii
import ByteScan.Scan.Run

/-!
# Variables that are given other values

External variables of a compiled rule set may be given other values, and the rule set may be saved and
loaded in between. The main statement says that it then scans as one does that was compiled with the
last values.
-/

namespace ByteScan

/-! ## Scans with other values -/

def External.binding (external : External) : String × Value :=
  (external.identifier, Context.valueOf external.value)

namespace Scan

variable (rules : RuleSet) {externals others : List External}

theorem confirmAll_withExternals (externals : List External) (block : Block) (position : Nat)
    (candidates : List Candidate) :
    confirmAll (rules.withExternals externals) block position candidates =
      confirmAll rules block position candidates := by
  induction candidates with
  | nil => rfl
  | cons candidate candidates ih =>
      simp only [confirmAll, ih]
      rfl

theorem walk_withExternals (externals : List External) (block : Block)
    (left position state count : Nat) :
    walk (rules.withExternals externals) block left position state count =
      walk rules block left position state count := by
  have same (position state : Nat) :
      confirmState (rules.withExternals externals) block position state =
        confirmState rules block position state := confirmAll_withExternals rules externals ..
  induction left generalizing position state count with
  | zero => simp only [walk, same]
  | succ left ih =>
      simp only [walk, same, ih]
      rfl

theorem scanBlocks_withExternals (externals : List External) (blocks : List Block) :
    scanBlocks (rules.withExternals externals) blocks = scanBlocks rules blocks := by
  induction blocks with
  | nil => rfl
  | cons block blocks ih =>
      simp only [scanBlocks, ih]
      rw [scanBlock, walk_withExternals]
      rfl

theorem bindExternals_congr (same : externals.map External.binding = others.map External.binding) :
    Context.bindExternals externals = Context.bindExternals others := by
  induction externals generalizing others with
  | nil =>
      obtain rfl := List.map_eq_nil_iff.mp same.symm
      rfl
  | cons external externals ih =>
      cases others with
      | nil => cases same
      | cons other others =>
          obtain ⟨first, rest⟩ := List.cons.inj same
          obtain ⟨sameName, sameValue⟩ := Prod.mk.inj first
          simp only [Context.bindExternals, sameName, sameValue, ih rest]

section

variable (same : externals.map External.identifier = others.map External.identifier)
include same

theorem valueOf_withExternals (context : Context) (stack : List Value) (instruction : Instruction) :
    valueOf (rules.withExternals externals) context stack instruction =
      valueOf (rules.withExternals others) context stack instruction := by
  cases instruction with
  | external index =>
      have sameName := congrArg (fun names => names[index.toNat]?) same
      simp only [List.getElem?_map] at sameName
      simp only [valueOf, RuleSet.withExternals]
      cases isFirst : externals[index.toNat]? <;> cases isSecond : others[index.toNat]? <;>
        simp_all
  | _ => rfl

theorem followInstruction_withExternals (machine : MachineState) (instruction : Instruction)
    (place : CodePlace) :
    followInstruction (rules.withExternals externals) machine instruction place =
      followInstruction (rules.withExternals others) machine instruction place := by
  cases instruction with
  | halt => rfl
  | verdict number => rfl
  | _ => simp only [followInstruction, valueOf_withExternals rules same]

theorem follow_withExternals (left : Nat) (machine : MachineState) :
    follow (rules.withExternals externals) left machine =
      follow (rules.withExternals others) left machine := by
  induction left generalizing machine with
  | zero => rfl
  | succ left ih =>
      simp only [follow, followInstruction_withExternals rules same, ih]
      rfl

theorem evaluate_withExternals :
    evaluate (rules.withExternals externals) = evaluate (rules.withExternals others) := by
  simp only [evaluate, follow_withExternals rules same]
  rfl

end

/-- A scan depends on external variables only by their names and the values that it binds to them. -/
theorem run_withExternals (same : externals.map External.binding = others.map External.binding)
    (blocks : List Block) (flags : ScanFlags) (timeout : Nanoseconds) (clock : Clock)
    (listener : Listener σ) :
    run (rules.withExternals externals) blocks flags timeout clock listener =
      run (rules.withExternals others) blocks flags timeout clock listener := by
  have names : externals.map External.identifier = others.map External.identifier := by
    have firsts := congrArg (List.map Prod.fst) same
    rwa [List.map_map, List.map_map] at firsts
  have gathers : gather (rules.withExternals externals) blocks =
      gather (rules.withExternals others) blocks := by
    simp only [gather, scanBlocks_withExternals, evaluate_withExternals rules names]
    rw [show (rules.withExternals externals).externals = externals from rfl,
      show (rules.withExternals others).externals = others from rfl, bindExternals_congr same]
  cases blocks with
  | nil => rfl
  | cons first rest =>
      simp only [run, report, gathers]
      rfl

end Scan

/-! ## What is done between scans -/

/-- What is done with a compiled rule set between scans: a variable is given a value, or the rule set is
saved and loaded again. -/
inductive Handling where
  | define (name : String) (value : ExternalDefault)
  | reload

def ExternalDefault.redefinition : ExternalDefault → ExternalValue
  | .text written => .ofText written
  | .boolean value => .boolean value
  | .integer value => .integer value
  | .float value => .float value

namespace RuleSet

def handle (rules : RuleSet) : Handling → Except Error RuleSet
  | .define name value => rules.define name value.redefinition
  | .reload => RuleFile.read (RuleFile.write rules)

/-- The rule set that is there after something was done with it, which is the same one if that failed. -/
def handled (rules : RuleSet) (handling : Handling) : RuleSet :=
  match rules.handle handling with
  | .ok after => after
  | .error _ => rules

end RuleSet

namespace External

def given (name : String) (value : ExternalValue) (external : External) : External :=
  if external.identifier = name then { external with value } else external

def last (value : ExternalDefault → ExternalValue) (external : External) : List Handling → External
  | [] => external
  | .define name default :: handlings => last value (external.given name (value default)) handlings
  | .reload :: handlings => last value external handlings

theorem identifier_given (name : String) (value : ExternalValue) (external : External) :
    (external.given name value).identifier = external.identifier := by
  rw [given]
  split <;> rfl

theorem identifier_last (value : ExternalDefault → ExternalValue) (handlings : List Handling)
    (external : External) : (external.last value handlings).identifier = external.identifier := by
  induction handlings generalizing external with
  | nil => rfl
  | cons handling handlings ih =>
      cases handling with
      | define name default => rw [last, ih, identifier_given]
      | reload => rw [last, ih]

theorem map_identifier_given (name : String) (value : ExternalValue) (externals : List External) :
    (externals.map (given name value)).map identifier = externals.map identifier := by
  simp [identifier_given]

theorem map_given_of_not_mem {name : String} {externals : List External}
    (absent : name ∉ externals.map identifier) (value : ExternalValue) :
    externals.map (given name value) = externals := by
  have same : ∀ external ∈ externals, given name value external = external := by
    intro external member
    refine if_neg fun isName => absent ?_
    rw [← isName]
    exact List.mem_map_of_mem member
  rw [List.map_congr_left same, List.map_id']

theorem binding_last {handlings : List Handling} {external other : External}
    (same : external.binding = other.binding) :
    (external.last ExternalDefault.redefinition handlings).binding =
      (other.last ExternalDefault.value handlings).binding := by
  induction handlings generalizing external other with
  | nil => exact same
  | cons handling handlings ih =>
      cases handling with
      | define name default =>
          rw [last, last]
          refine ih ?_
          have sameName : external.identifier = other.identifier := congrArg Prod.fst same
          simp only [given, sameName]
          split
          · cases default <;> simp [binding, Context.valueOf, ExternalDefault.redefinition,
              ExternalDefault.value, ExternalValue.ofText]
          · exact same
      | reload => exact ih same

/-- Where names are different, the variable of a name is given the value. -/
theorem redefine_eq {externals : List External} {name : String} {value : ExternalValue}
    (distinct : (externals.map identifier).Nodup) :
    redefine name value externals =
      if name ∈ externals.map identifier then .ok (externals.map (given name value))
      else .error (.invalidArgument (.unknownExternal name)) := by
  induction externals with
  | nil => rfl
  | cons external externals ih =>
      rw [List.map_cons, List.nodup_cons] at distinct
      have rest := ih distinct.2
      rw [redefine] at rest ⊢
      rw [redefineWith]
      by_cases isFirst : external.identifier = name
      · subst isFirst
        have others := map_given_of_not_mem distinct.1 value
        simp [given, others]
      · rw [if_neg isFirst, rest]
        have notFirst : ¬name = external.identifier := fun same => isFirst same.symm
        by_cases member : name ∈ externals.map identifier
        · simp [given, isFirst, member]
        · simp [notFirst, member]

end External

def Collection.withLast (collection : Collection) (handlings : List Handling) : Collection :=
  { collection with externals := collection.externals.map (·.last ExternalDefault.value handlings) }

namespace RuleSet

variable {rules : RuleSet}

theorem handle_define (distinct : (rules.externals.map External.identifier).Nodup) (name : String)
    (value : ExternalDefault) :
    rules.handle (.define name value) =
      if name ∈ rules.externals.map External.identifier then
        .ok (rules.withExternals (rules.externals.map (.given name value.redefinition)))
      else .error (.invalidArgument (.unknownExternal name)) := by
  rw [handle, define, External.redefine_eq distinct]
  split <;> rfl

theorem handled_define (distinct : (rules.externals.map External.identifier).Nodup) (name : String)
    (value : ExternalDefault) :
    rules.handled (.define name value) =
      rules.withExternals (rules.externals.map (.given name value.redefinition)) := by
  rw [handled, handle_define distinct]
  by_cases member : name ∈ rules.externals.map External.identifier
  · rw [if_pos member]
  · rw [if_neg member, External.map_given_of_not_mem member]
    rfl

/-- What has been done shows in the values of the variables alone. -/
theorem foldl_handled (consistent : rules.Consistent)
    (distinct : (rules.externals.map External.identifier).Nodup) (handlings : List Handling)
    (fits : ∀ earlier later, handlings = earlier ++ .reload :: later →
      (earlier.foldl handled rules).FitsFile) :
    handlings.foldl handled rules =
      rules.withExternals (rules.externals.map (·.last ExternalDefault.redefinition handlings)) := by
  induction handlings generalizing rules with
  | nil => simp [External.last, withExternals]
  | cons handling handlings ih =>
      rw [List.foldl_cons]
      have later (earlier later : List Handling) (same : handlings = earlier ++ .reload :: later) :
          (earlier.foldl handled (rules.handled handling)).FitsFile :=
        fits (handling :: earlier) later (by rw [same, List.cons_append])
      cases handling with
      | define name value =>
          rw [handled_define distinct] at later ⊢
          rw [ih (consistent.withExternals _) _ later]
          · simp [withExternals, External.last]
          · change ((rules.externals.map _).map _).Nodup
            rwa [External.map_identifier_given]
      | reload =>
          have same : rules.handled .reload = rules := by
            rw [handled, handle, RuleFile.read_write consistent
              (RuleFile.storable consistent (fits [] handlings rfl))]
          rw [same] at later ⊢
          exact ih consistent distinct later

end RuleSet

/-! ## Sizes in files -/

theorem RuleSet.fitsFile_withExternals {collection : Collection} {rules : RuleSet}
    {code : List (List Instruction)} {names : List String}
    (gives : collection.Gives
      ⟨#["default"], #[⟨"r", 0, false, false, [], []⟩], #[], code, names⟩ rules)
    (short : (encodeAll (code.reverse.flatten ++ [.halt])).length < UInt32.size - 1)
    {externals : List External} (few : externals.length < UInt32.size - 1)
    (each : ∀ external ∈ externals,
      RuleFile.TextFits external.identifier ∧ RuleFile.ValueFits external.value) :
    (rules.withExternals externals).FitsFile where
  counts := by
    have tables : rules.automaton.toTables = Automaton.tablesOf [] 0 := by
      rw [(Automaton.of_ofSigns gives.built).2, gives.sameStrings]
      rfl
    simp only [withExternals, gives.sameSpaces, gives.sameRules, gives.sameStrings, gives.sameCode,
      tables, List.forall_mem_cons]
    refine ⟨by decide, by decide, by decide, few, ?_, ?_, short, List.forall_mem_nil _⟩
    · exact Nat.lt_of_le_of_lt (Automaton.size_candidates_le [] 0) (by decide)
    · exact Nat.lt_of_le_of_lt (Automaton.size_cells_le [] 0) (by decide)
  eachSpace := by
    rw [withExternals, gives.sameSpaces]
    exact show ∀ space ∈ #["default"], RuleFile.TextFits space by decide
  eachRule := by
    rw [withExternals, gives.sameRules]
    intro rule member
    obtain rfl := List.mem_singleton.mp (Array.mem_toList_iff.mpr member)
    exact ⟨by decide, by decide, by decide, by decide⟩
  eachString := by
    rw [withExternals, gives.sameStrings]
    intro string member
    cases member
    contradiction
  eachExternal := each

namespace RuleFile

/-- The length of a text is zero in a file if the text has as many bytes as there are words of
thirty-two bits. The bytes of the text may then be those of another variable, whose value goes on
with the variable that comes after. -/
theorem write_swallowed (rules : RuleSet) (identifier : String) {text name : String}
    {front : List UInt8} (external : External)
    (spelled : text.toUTF8.toList = sizedText name ++
      (byte 4 ++ (word (front ++ writeExternal external).length ++ front)))
    (wraps : word text.toUTF8.toList.length = word 0) :
    write (rules.withExternals [⟨identifier, .ofText text⟩, external]) =
      write (rules.withExternals [⟨identifier, .string [] true⟩,
        ⟨name, .string (front ++ writeExternal external) true⟩]) := by
  have same : [⟨identifier, .ofText text⟩, external].flatMap writeExternal =
      [⟨identifier, .string [] true⟩,
        ⟨name, .string (front ++ writeExternal external) true⟩].flatMap writeExternal := by
    have owned (identifier : String) (bytes : List UInt8) :
        writeExternal ⟨identifier, .string bytes true⟩ =
          sizedText identifier ++ (byte 4 ++ (word bytes.length ++ bytes)) := rfl
    simp only [List.flatMap_cons, List.flatMap_nil, List.append_nil, ExternalValue.ofText, owned, wraps,
      List.length_nil, List.append_assoc]
    simp only [spelled, List.append_assoc]
  simp only [write, counts, RuleSet.withExternals, same, List.length_cons, List.length_nil]

/-- A text whose bytes begin the record of a variable: the length of its name, the name, the kind of its
value, the length of the value and the first letters of the value. -/
def recordText (count more : Nat) : String :=
  Text.ofAscii (word count) ++ Text.ofAscii (List.replicate count 0x61) ++ Text.ofAscii (byte 4) ++
    String.ofList [Char.ofNat 0x10ffff] ++ Text.ofAscii (List.replicate more 0x61)

section

variable {count more : Nat} (isCount : count = 0x40407011) (isMore : more + 14 = 0xbfbf8ff4)
  {record : List UInt8} (short : record.length = 14)

include isMore short in
theorem length_letters_append : (List.replicate more (0x61 : UInt8) ++ record).length = 0xbfbf8ff4 := by
  rw [List.length_append, List.length_replicate, short, isMore]

include isCount isMore short

theorem toUTF8_recordText : (recordText count more).toUTF8.toList =
    sizedText (Text.ofAscii (List.replicate count 0x61)) ++ (byte 4 ++
      (word (List.replicate more 0x61 ++ record).length ++ List.replicate more 0x61)) := by
  have begins : (Text.ofAscii (word count)).toUTF8.toList = word count := by
    subst isCount
    exact Text.toUTF8_ofAscii (by decide +kernel)
  have kind : (Text.ofAscii (byte 4)).toUTF8.toList = byte 4 := Text.toUTF8_ofAscii (by decide +kernel)
  have size : (String.ofList [Char.ofNat 0x10ffff]).toUTF8.toList = word 0xbfbf8ff4 :=
    (Text.toUTF8_ofList _).trans (by decide)
  have letters := Text.toUTF8_replicate (show 0x61 < 0x80 by decide)
  simp only [recordText, Text.toUTF8_append, begins, kind, size, letters, sizedText, sized,
    List.length_replicate, length_letters_append isMore short, List.append_assoc]

theorem length_recordText : (recordText count more).toUTF8.toList.length = UInt32.size := by
  have kindLength : (byte 4).length = 1 := rfl
  have sum : UInt32.size = 4 + count + (1 + (4 + more)) := by
    change 0x100000000 = _
    omega
  rw [toUTF8_recordText isCount isMore short, sizedText, sized,
    Text.toUTF8_replicate (by decide), List.length_append,
    List.length_append, List.length_append, List.length_append, length_word, length_word, kindLength,
    List.length_replicate, List.length_replicate, sum]

end

end RuleFile

/-- Variables may be given other values, and the rule set saved and loaded in between where its sizes
fit the file: it then scans as the one does that is compiled with the last values as defaults. Only a
name that was not declared is refused, and neither names nor their order ever change. Sizes that do not
fit are cut off without notice when the rule set is saved. -/
theorem Collection.scans_redefined {collection : Collection} {rules : RuleSet}
    (compiled : collection.compile = .ok rules) (handlings : List Handling)
    (fits : ∀ earlier later, handlings = earlier ++ .reload :: later →
      (earlier.foldl RuleSet.handled rules).FitsFile) :
    let after := handlings.foldl RuleSet.handled rules
    (∀ earlier later, handlings = earlier ++ .reload :: later →
      (earlier.foldl RuleSet.handled rules).handle .reload =
        .ok (earlier.foldl RuleSet.handled rules)) ∧
    (∀ name value, if name ∈ collection.externals.map External.identifier then
        ∃ next, after.handle (.define name value) = .ok next
      else
        after.handle (.define name value) = .error (.invalidArgument (.unknownExternal name)) ∧
          after.handled (.define name value) = after) ∧
    after.externals.map External.identifier = collection.externals.map External.identifier ∧
    ∃ recompiled, (collection.withLast handlings).compile = .ok recompiled ∧
      ∀ (σ : Type) blocks flags timeout clock (listener : Listener σ),
        Scan.run after blocks flags timeout clock listener =
          Scan.run recompiled blocks flags timeout clock listener := by
  intro after
  obtain ⟨apart, compilation, _, gives⟩ := compile_eq_ok compiled
  have consistent := consistent compiled
  have distinct : (rules.externals.map External.identifier).Nodup := by
    rw [gives.sameExternals]
    exact (firstRepeated?_eq_none_iff.mp apart).1
  have isAfter : after = rules.withExternals
      (rules.externals.map (·.last ExternalDefault.redefinition handlings)) :=
    RuleSet.foldl_handled consistent distinct handlings fits
  have names : after.externals.map External.identifier =
      collection.externals.map External.identifier := by
    rw [isAfter, ← gives.sameExternals]
    simp [RuleSet.withExternals, External.identifier_last]
  refine ⟨?_, ?_, names, ?_⟩
  · intro earlier later split
    have before := RuleSet.foldl_handled consistent distinct earlier fun first rest same =>
      fits first (rest ++ .reload :: later) (by rw [split, same, List.append_assoc, List.cons_append])
    have kept : (earlier.foldl RuleSet.handled rules).Consistent := by
      rw [before]
      exact consistent.withExternals _
    exact RuleFile.read_write kept (RuleFile.storable kept (fits earlier later split))
  · intro name value
    have handle := RuleSet.handle_define (names ▸ gives.sameExternals ▸ distinct) name value
    rw [names] at handle
    split
    · rename_i declared
      exact ⟨_, handle.trans (if_pos declared)⟩
    · rename_i undeclared
      rw [if_neg undeclared] at handle
      refine ⟨handle, ?_⟩
      rw [RuleSet.handled, handle]
  · refine ⟨_, compile_withExternals compiled ?_, fun σ blocks flags timeout clock listener => ?_⟩
    · simp [External.identifier_last]
    · rw [isAfter]
      refine Scan.run_withExternals rules ?_ blocks flags timeout clock listener
      rw [gives.sameExternals, List.map_map, List.map_map]
      exact List.map_congr_left fun external _ => External.binding_last rfl

/-- A number becomes a text, which is saved and loaded, and then a truth value. -/
theorem Collection.scans_redefined_retyped :
    let rule : RuleDecl := ⟨"r", none, false, false, [], [], .external "limit"⟩
    let collection : Collection :=
      { externals := [⟨"limit", .integer 0⟩], rules := [("default", rule)] }
    let handlings : List Handling :=
      [.define "limit" (.text "A"), .reload, .define "limit" (.boolean true)]
    ∃ rules, collection.compile = .ok rules ∧
      (∀ earlier later, handlings = earlier ++ .reload :: later →
        (earlier.foldl RuleSet.handled rules).FitsFile) ∧
      (collection.withLast handlings).externals = [⟨"limit", .boolean true⟩] ∧
      ∃ recompiled, (collection.withLast handlings).compile = .ok recompiled ∧
        ∀ (σ : Type) blocks flags timeout clock (listener : Listener σ),
          Scan.run (handlings.foldl RuleSet.handled rules) blocks flags timeout clock listener =
            Scan.run recompiled blocks flags timeout clock listener := by
  intro rule collection handlings
  have same : collection.compilation = .ok ⟨#["default"], #[⟨"r", 0, false, false, [], []⟩], #[],
      [[.external 0, .verdict 0]], ["limit"]⟩ := by with_unfolding_all rfl
  have cells := Automaton.size_cells_le [] 0
  obtain ⟨rules, compiled, gives⟩ := compile_ok rfl same (cells.trans (by decide))
  have defined : rules.handled (.define "limit" (.text "A")) =
      rules.withExternals [⟨"limit", .string [0x41] true⟩] := by
    rw [RuleSet.handled_define (by rw [gives.sameExternals]; decide), gives.sameExternals]
    exact congrArg rules.withExternals (by with_unfolding_all rfl)
  have fits : (rules.withExternals [⟨"limit", .string [0x41] true⟩]).FitsFile :=
    RuleSet.fitsFile_withExternals gives (by decide) (by decide)
      (List.forall_mem_singleton.mpr ⟨by decide, by decide⟩)
  have each : ∀ earlier later, handlings = earlier ++ .reload :: later →
      (earlier.foldl RuleSet.handled rules).FitsFile := by
    rintro (_ | ⟨first, _ | ⟨second, _ | ⟨third, more⟩⟩⟩) later split <;>
      simp [handlings] at split
    rw [← split.1, List.foldl_cons, List.foldl_nil, defined]
    exact fits
  obtain ⟨_, _, _, again⟩ := scans_redefined compiled handlings each
  exact ⟨rules, compiled, each, by decide, again⟩

/-- A text may have as many bytes as there are words of thirty-two bits and be the record of another
variable. When it was saved and loaded, this is the variable that comes after, under a name that was not
declared. -/
theorem Collection.scans_redefined_renamed :
    let rule : RuleDecl := ⟨"r", none, false, false, [], [], .truth true⟩
    let collection : Collection :=
      { externals := [⟨"a", .integer 0⟩, ⟨"b", .integer 0⟩], rules := [("default", rule)] }
    let text := RuleFile.recordText 0x40407011 0xbfbf8fe6
    ∃ rules loaded, collection.compile = .ok rules ∧
      (rules.handled (.define "a" (.text text))).handle .reload = .ok loaded ∧
      "b" ∉ loaded.externals.map External.identifier ∧
      loaded.handle (.define "b" (.boolean true)) =
        .error (.invalidArgument (.unknownExternal "b")) := by
  intro rule collection
  have same : collection.compilation = .ok ⟨#["default"], #[⟨"r", 0, false, false, [], []⟩], #[],
      [[.pushBoolean true, .verdict 0]], ["a", "b"]⟩ := by with_unfolding_all rfl
  have cells := Automaton.size_cells_le [] 0
  obtain ⟨rules, compiled, gives⟩ := compile_ok rfl same (cells.trans (by decide))
  let other : External := ⟨"b", .integer 0⟩
  have short : (RuleFile.writeExternal other).length = 14 := by with_unfolding_all rfl
  -- The counts are kept apart from their values, which are too large to count to.
  obtain ⟨count, isCount⟩ : ∃ count, count = 0x40407011 := ⟨_, rfl⟩
  obtain ⟨more, isMore⟩ : ∃ more, more = 0xbfbf8fe6 := ⟨_, rfl⟩
  rw [← isCount, ← isMore]
  intro text
  have sum : more + 14 = 0xbfbf8ff4 := by rw [isMore]
  have spelled := RuleFile.toUTF8_recordText isCount sum short
  have wraps := RuleFile.length_recordText isCount sum short
  have valueLength := RuleFile.length_letters_append sum short
  let name := Text.ofAscii (List.replicate count 0x61)
  have nameLength : name.toUTF8.toList.length = 0x40407011 := by
    rw [Text.toUTF8_replicate (by decide), List.length_replicate, isCount]
  have different (identifier : String) (single : identifier.toUTF8.toList.length = 1) :
      name ≠ identifier := by
    intro same
    rw [same, single] at nameLength
    cases nameLength
  have isNew : name ≠ "b" := different "b" (by with_unfolding_all rfl)
  have isNotFirst : name ≠ "a" := different "a" (by with_unfolding_all rfl)
  have defined : rules.handled (.define "a" (.text text)) =
      rules.withExternals [⟨"a", .ofText text⟩, other] := by
    rw [RuleSet.handled_define (by rw [gives.sameExternals]; decide), gives.sameExternals]
    rfl
  let value : ExternalValue :=
    .string (List.replicate more 0x61 ++ RuleFile.writeExternal other) true
  let loaded := rules.withExternals [⟨"a", .string [] true⟩, ⟨name, value⟩]
  have names : loaded.externals.map External.identifier = ["a", name] := rfl
  have consistent : loaded.Consistent := (consistent compiled).withExternals _
  have fits : loaded.FitsFile := by
    refine RuleSet.fitsFile_withExternals gives (by decide) (show 2 < UInt32.size - 1 by decide) ?_
    refine List.forall_mem_cons.mpr ⟨⟨by decide, by decide⟩, List.forall_mem_singleton.mpr ⟨?_, ?_⟩⟩
    · rw [RuleFile.TextFits, nameLength]
      decide
    · rw [RuleFile.ValueFits, valueLength]
      decide
  have written : RuleFile.write (rules.withExternals [⟨"a", .ofText text⟩, other]) =
      RuleFile.write loaded := RuleFile.write_swallowed rules "a" other spelled (by rw [wraps]; rfl)
  refine ⟨rules, loaded, compiled, ?_, ?_, ?_⟩
  · rw [defined, RuleSet.handle, written]
    exact RuleFile.read_write consistent (RuleFile.storable consistent fits)
  · rw [names]
    simp [isNew.symm]
  · rw [RuleSet.handle_define (by rw [names]; simp [isNotFirst.symm]), names]
    simp [isNew.symm]

end ByteScan
