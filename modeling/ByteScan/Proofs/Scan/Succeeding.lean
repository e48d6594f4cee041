import ByteScan.Proofs.Scan.Verdicts

/-!
# Verdicts of a scan that succeeds

Evaluating conditions may fail, for want of time or of room on the stack or because a match lies
beyond all addresses. Where it does not fail, the verdicts are those that the conditions deserve:
`judged_of_evaluate`. `Passes` is the way of following code that this rests on.
-/

namespace ByteScan.Scan

variable {rules : RuleSet} {context final : Context}

/-! ## One instruction -/

theorem clock_of_checkDeadline {after : Context} (ended : Context.checkDeadline context = .ok () after) :
    ∃ clock, after = { context with clock } := by
  unfold Context.checkDeadline at ended
  split at ended
  · cases ended
    exact ⟨context.clock, rfl⟩
  · simp only at ended
    split at ended
    · cases ended
    · cases ended
      exact ⟨_, rfl⟩

theorem follow_eq_ok {machine : MachineState} {instruction : Instruction} {place : CodePlace}
    (taken : machine.place.takeInstruction rules.strings.size rules.rules.size =
      .ok (instruction, place)) {left : Nat}
    (ended : follow rules (left + 1) machine context = .ok () final) :
    ∃ clock, (followInstruction rules { machine with begun := machine.begun + 1 } instruction place >>=
      fun next => match next with
        | some machine => follow rules left machine
        | none => pure ()) { context with clock } = .ok () final := by
  rw [follow] at ended
  simp only [taken] at ended
  split at ended
  · obtain ⟨_, after, inTime, rest⟩ := bind_state_eq_ok ended
    obtain ⟨clock, rfl⟩ := clock_of_checkDeadline inTime
    exact ⟨clock, rest⟩
  · exact ⟨context.clock, ended⟩

theorem valueOf_clock (clock : Clock) (stack : List Value) (instruction : Instruction) :
    valueOf rules { context with clock } stack instruction =
      valueOf rules context stack instruction := by
  cases instruction <;> rfl

theorem followInstruction_eq_ok {machine : MachineState} {instruction : Instruction}
    (puts : putsValue instruction = true) {value : Value} {below : List Value}
    (answers : Answers rules context machine.stack instruction value below) {place : CodePlace}
    {next : Option MachineState}
    (ended : followInstruction rules machine instruction place context = .ok next final) :
    next = some { machine with place, stack := value :: below } ∧ final = context := by
  rw [followInstruction_puts puts] at ended
  rcases answers with gives | ⟨missed, _⟩
  · rw [gives] at ended
    dsimp only at ended
    split at ended
    · cases ended
    · cases ended
      exact ⟨rfl, rfl⟩
  · rw [missed] at ended
    cases ended

/-! ## The code of a condition -/

/-- Where code is followed to its end, these instructions take the machine from one stack to another
and leave the state of the scan alone, except that time passes. -/
def Passes (rules : RuleSet) (context : Context) (instructions : List Instruction)
    (stack after : List Value) : Prop :=
  ∀ left position rest begun timer clock final,
    follow rules (instructions.length + left)
        ⟨⟨position, encodeAll instructions ++ rest⟩, stack, begun, timer⟩ { context with clock } =
          .ok () final →
      ∃ clock, follow rules left
        ⟨⟨position + (encodeAll instructions).length, rest⟩, after, begun + instructions.length,
          timer⟩ { context with clock } = .ok () final

theorem Passes.append {first second : List Instruction} {start middle finish : List Value}
    (early : Passes rules context first start middle)
    (late : Passes rules context second middle finish) :
    Passes rules context (first ++ second) start finish := by
  intro left position rest begun timer clock final ended
  rw [List.length_append, Nat.add_assoc, encodeAll_append, List.append_assoc] at ended
  obtain ⟨clock', ended'⟩ := early _ _ _ _ _ _ _ ended
  obtain ⟨clock'', ended''⟩ := late _ _ _ _ _ _ _ ended'
  refine ⟨clock'', ?_⟩
  rw [encodeAll_append, List.length_append, List.length_append, ← Nat.add_assoc, ← Nat.add_assoc]
  exact ended''

theorem Passes.single {instruction : Instruction}
    (inRange : instruction.InRange rules.strings.size rules.rules.size)
    (puts : putsValue instruction = true) {stack below : List Value} {value : Value}
    (answers : Answers rules context stack instruction value below) :
    Passes rules context [instruction] stack (value :: below) := by
  intro left position rest begun timer clock final ended
  have taken := CodePlace.takeInstruction_encode inRange rest position
  rw [encodeAll_singleton, List.length_singleton, Nat.add_comm 1 left] at ended
  obtain ⟨clock', ended⟩ := follow_eq_ok taken ended
  obtain ⟨next, after, followed, ended⟩ := bind_state_eq_ok ended
  have answers' : Answers rules { context with clock := clock' } stack instruction value below := by
    rw [Answers, valueOf_clock]
    exact answers
  obtain ⟨rfl, rfl⟩ := followInstruction_eq_ok puts answers' followed
  rw [encodeAll_singleton, List.length_singleton]
  exact ⟨clock', ended⟩

theorem runs_passes (limit : Nat) : Runs rules context limit (Passes rules context) where
  append := Passes.append
  single := fun inRange puts answers _ => Passes.single inRange puts answers

/-! ## Verdicts -/

theorem recordVerdict_clock (clock : Clock) (number : Nat) (value : Value) :
    recordVerdict rules number value { context with clock } =
      { recordVerdict rules number value context with clock } := by
  unfold recordVerdict
  split
  · rfl
  · split
    · split
      · rfl
      · rfl
    · rfl

theorem follow_verdict_eq_ok {number : UInt32} (known : number.toNat < rules.rules.size)
    {value : Value} {stack : List Value} {left position : Nat} {rest : List UInt8} {begun : Nat}
    {timer : Option Nanoseconds}
    (ended : follow rules (left + 1)
      ⟨⟨position, (Instruction.verdict number).encode ++ rest⟩, value :: stack, begun, timer⟩
      context = .ok () final) :
    ∃ clock times timer', follow rules left
      ⟨⟨position + (Instruction.verdict number).encode.length, rest⟩, stack, begun + 1, timer'⟩
      { recordVerdict rules number.toNat value context with clock, ruleTimes := times } =
        .ok () final := by
  have inRange : (Instruction.verdict number).InRange rules.strings.size rules.rules.size := known
  have taken := CodePlace.takeInstruction_encode inRange rest position
  obtain ⟨clock, ended⟩ := follow_eq_ok taken ended
  cases timer with
  | none =>
      refine ⟨clock, (recordVerdict rules number.toNat value context).ruleTimes, none, ?_⟩
      rw [← recordVerdict_clock]
      exact ended
  | some start =>
      let judged := recordVerdict rules number.toNat value { context with clock }
      change follow rules left ⟨_, stack, begun + 1, some judged.clock.look.1⟩
        { judged with
          clock := judged.clock.look.2
          ruleTimes := judged.ruleTimes.modify number.toNat
            (·.add (judged.clock.look.1 - start)) } = _ at ended
      simp only [judged, recordVerdict_clock] at ended
      exact ⟨_, _, _, ended⟩

/-! ## The code of all rules -/

section

variable {collection : Collection} {compilation : Compilation}
  (gives : collection.Gives compilation rules)
  (numbered : compilation.Numbered collection.rules)
  (externals : compilation.externals = collection.externals.map External.identifier)
  (fits : rules.FitsWords)
  (literals : ∀ entry ∈ collection.rules, entry.2.condition.LiteralsFit)
  {start : Context}
include gives numbered externals fits literals

/-- Where the code of one rule and of those after it is followed to its end, the verdict on the rule
is the one that its condition deserves. -/
theorem follow_rule_eq_ok {count : Nat} (judged : Judged collection rules start count context)
    {space : String} {decl : RuleDecl}
    (isDecl : collection.rules[count]? = some (space, decl)) {instructions : List Instruction}
    (coded : compilation.code.reverse[count]? = some instructions) {left position : Nat}
    {rest : List UInt8} {begun : Nat} {timer : Option Nanoseconds}
    (ended : follow rules (instructions.length + left)
      ⟨⟨position, encodeAll instructions ++ rest⟩, [], begun, timer⟩ context = .ok () final) :
    ∃ after timer', Judged collection rules start (count + 1) after ∧
      follow rules left
        ⟨⟨position + (encodeAll instructions).length, rest⟩, [], begun + instructions.length,
          timer'⟩ after = .ok () final := by
  obtain ⟨rule, scope, code, listed, inSpace, small, compiled, rfl, understands⟩ :=
    exists_prepared gives numbered externals fits context isDecl coded
  have within : count < rules.rules.size := (Array.getElem?_eq_some_iff.mp listed).1
  rw [judged.meaningOf_eq] at understands
  have passed : Passes rules context code [] _ :=
    (runs_passes _).eval understands compiled (literals _ (List.mem_of_getElem? isDecl))
      (Nat.le_refl _)
  rw [List.length_append, List.length_singleton, encodeAll_append, encodeAll_singleton,
    List.append_assoc, Nat.add_assoc, Nat.add_comm 1 left] at ended
  obtain ⟨clock, ended⟩ := passed _ _ _ _ _ context.clock _ ended
  obtain ⟨clock', times, timer', ended⟩ := follow_verdict_eq_ok (small.symm ▸ within) ended
  rw [recordVerdict_clock, small] at ended
  refine ⟨_, timer', judged.step isDecl listed inSpace clock' times, ?_⟩
  rw [encodeAll_append, encodeAll_singleton, List.length_append, List.length_append,
    List.length_singleton, ← Nat.add_assoc, ← Nat.add_assoc]
  exact ended

theorem follow_rules_eq_ok {codes : List (List Instruction)} {count : Nat}
    (within : count ≤ collection.rules.length)
    (rest : compilation.code.reverse.drop count = codes)
    (judged : Judged collection rules start count context) {left position begun : Nat}
    {timer : Option Nanoseconds}
    (ended : follow rules (codes.flatten.length + (left + 1))
      ⟨⟨position, encodeAll (codes.flatten ++ [.halt])⟩, [], begun, timer⟩ context =
        .ok () final) :
    Judged collection rules start collection.rules.length final := by
  have codeCount : compilation.code.reverse.length = collection.rules.length := by
    rw [List.length_reverse, numbered.codes]
  induction codes generalizing count context position begun timer with
  | nil =>
      have all : collection.rules.length ≤ count := by
        rw [← codeCount]
        exact List.drop_eq_nil_iff.mp rest
      rw [List.flatten_nil, List.length_nil, Nat.zero_add] at ended
      have taken : CodePlace.takeInstruction rules.strings.size rules.rules.size
          ⟨position, encodeAll ([] ++ [.halt])⟩ = .ok (.halt, ⟨position + 1, []⟩) := rfl
      obtain ⟨clock, ended⟩ := follow_eq_ok taken ended
      cases ended
      rw [← Nat.le_antisymm within all]
      exact { judged with }
  | cons code codes ih =>
      have coded : compilation.code.reverse[count]? = some code := by
        rw [← List.head?_drop, rest]
        rfl
      have rest' : compilation.code.reverse.drop (count + 1) = codes := by
        rw [← List.tail_drop, rest]
        rfl
      have inRules : count < collection.rules.length :=
        codeCount ▸ (List.getElem?_eq_some_iff.mp coded).1
      rw [List.flatten_cons, List.length_append, Nat.add_assoc, List.append_assoc,
        encodeAll_append] at ended
      obtain ⟨after, timer', judged', ended'⟩ := follow_rule_eq_ok gives numbered externals fits
        literals judged (List.getElem?_eq_getElem inRules) coded ended
      exact ih inRules rest' judged' ended'

end

/-- Where the evaluation of conditions succeeds, the verdicts are those that they deserve. -/
theorem judged_of_evaluate {collection : Collection} {compilation : Compilation}
    (gives : collection.Gives compilation rules)
    (numbered : compilation.Numbered collection.rules)
    (externals : compilation.externals = collection.externals.map External.identifier)
    (fits : rules.FitsWords)
    (literals : ∀ entry ∈ collection.rules, entry.2.condition.LiteralsFit) {start : Context}
    (matched : start.matchedRules = Array.replicate rules.rules.size false)
    (unsatisfied : start.unsatisfiedSpaces = Array.replicate rules.spaces.size false)
    (ended : evaluate rules start = .ok () final) :
    Judged collection rules start collection.rules.length final := by
  obtain ⟨left, timer, clock, evaluated⟩ := exists_evaluate_eq gives start
  rw [evaluated] at ended
  exact follow_rules_eq_ok gives numbered externals fits literals (Nat.zero_le _) List.drop_zero
    (judged_start matched unsatisfied clock) ended

end ByteScan.Scan
