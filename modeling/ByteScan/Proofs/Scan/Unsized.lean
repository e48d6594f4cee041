import ByteScan.Proofs.Scan.Computing
import ByteScan.Proofs.Scan.Succeeding
import ByteScan.Proofs.Text.Ascii

/-!
# Texts whose lengths are cut off

In condition code the length of a text is a word of thirty-two bits, and only that word of it is
written. Of a text with as many bytes as such words have values the word is zero: the machine puts the
empty text on the stack and takes the bytes of the text for instructions. So such a text can decide the
verdicts on all rules, whatever its condition means: `Disguise.evaluate_eq`.
-/

namespace ByteScan.Scan

variable {rules : RuleSet} {context : Context} {collection : Collection} {compilation : Compilation}

/-! ## A rule by itself -/

def soleCondition (condition : Condition) : Collection :=
  { rules := [("default", ⟨"r", none, false, false, [], [], condition⟩)] }

theorem addRule_first {condition : Condition} {code : List Instruction}
    (isCode : ∀ scope, condition.code scope = .ok code) (space : String) {strings : List StringDecl}
    (own : List (String × Nat)) {definitions : Array StringDef}
    (added : Compilation.addStrings "r" 0 [] ⟨#[space], #[], #[], [], []⟩ strings =
      .ok (own, ⟨#[space], #[], definitions, [], []⟩)) :
    Compilation.addRule ⟨#[], #[], #[], [], []⟩ space
        ⟨"r", none, false, false, [], strings, condition⟩ =
      .ok ⟨#[space], #[⟨"r", 0, false, false, own.map Prod.snd, []⟩], definitions,
        [code ++ [.verdict 0]], []⟩ := by
  have entered : Compilation.enter ⟨#[], #[], #[], [], []⟩ space =
      (0, ⟨#[space], #[], #[], [], []⟩) := by
    simp [Compilation.enter]
  have isNew : ¬(Compilation.ruleNumber? ⟨#[space], #[], #[], [], []⟩ 0 "r").isSome = true := by
    simp [Compilation.ruleNumber?]
  have added' : Compilation.addStrings "r" (Array.size (#[] : Array Rule)) []
      ⟨#[space], #[], #[], [], []⟩ strings = .ok (own, ⟨#[space], #[], definitions, [], []⟩) := added
  rw [Compilation.addRule, entered]
  simp only [if_neg isNew, added', Condition.ruleCode, isCode]
  rfl

theorem compile_soleCondition {condition : Condition} {code : List Instruction}
    (isCode : ∀ scope, condition.code scope = .ok code) :
    ∃ rules, (soleCondition condition).compile = .ok rules ∧
      (soleCondition condition).Gives
        ⟨#["default"], #[⟨"r", 0, false, false, [], []⟩], #[], [code ++ [.verdict 0]], []⟩
        rules := by
  have fits := Automaton.size_cells_le (signsOf []) 0
  refine Collection.compile_ok rfl ?_ (fits.trans (by decide))
  change Compilation.addRules ⟨#[], #[], #[], [], []⟩ [_] = _
  rw [Compilation.addRules, addRule_first isCode "default" [] rfl]
  rfl

theorem compile_soleText (text : String) :
    ∃ rules, (soleCondition (.text text)).compile = .ok rules ∧
      (soleCondition (.text text)).Gives
        ⟨#["default"], #[⟨"r", 0, false, false, [], []⟩], #[],
          [[.pushBytes text.toUTF8.toList] ++ [.verdict 0]], []⟩ rules :=
  compile_soleCondition fun _ => rfl

/-! ## Code behind a length of zero -/

theorem encode_unsized {bytes : List UInt8} (unsized : UInt32.ofNat bytes.length = 0) :
    (Instruction.pushBytes bytes).encode = (Instruction.pushBytes []).encode ++ bytes := by
  rw [Instruction.encode, Instruction.encode, unsized, List.append_nil]
  rfl

/-- The bytes of the first text are followed as instructions where the word of its length is zero. -/
theorem exists_follow_unsized (gives : collection.Gives compilation rules) {bytes : List UInt8}
    {more : List Instruction} (coded : compilation.code.reverse.flatten = .pushBytes bytes :: more)
    (unsized : UInt32.ofNat bytes.length = 0) (unlimited : context.timeout = 0) :
    ∃ left timer clock, bytes.length < left ∧
      evaluate rules context =
        follow rules left ⟨⟨5, bytes ++ encodeAll (more ++ [.halt])⟩, [.bytes []], 1, timer⟩
          { context with clock } := by
  have code : rules.code =
      (Instruction.pushBytes []).encode ++ (bytes ++ encodeAll (more ++ [.halt])) := by
    rw [gives.sameCode, coded, List.cons_append, encodeAll, List.flatMap_cons, encode_unsized unsized,
      List.append_assoc]
    rfl
  have taken : CodePlace.takeInstruction rules.strings.size rules.rules.size ⟨0, rules.code⟩ =
      .ok (.pushBytes [], ⟨5, bytes ++ encodeAll (more ++ [.halt])⟩) := by
    have inRange : (Instruction.pushBytes []).InRange rules.strings.size rules.rules.size :=
      show ([] : List UInt8).length < UInt32.size by decide
    rw [code]
    exact CodePlace.takeInstruction_encode inRange _ 0
  obtain ⟨timer, clock, begins⟩ : ∃ timer clock, evaluate rules context =
      follow rules (rules.code.length + 1) ⟨⟨0, rules.code⟩, [], 0, timer⟩ { context with clock } := by
    rw [evaluate_eq, gives.start, List.drop_zero, beginning]
    split
    · exact ⟨_, context.clock.look.2, rfl⟩
    · exact ⟨none, context.clock, rfl⟩
  refine ⟨rules.code.length, timer, clock, ?_, ?_⟩
  · rw [code, List.length_append, List.length_append]
    have header : (Instruction.pushBytes []).encode.length = 5 := rfl
    omega
  · have unlimited' : { context with clock }.timeout = 0 := unlimited
    rw [begins, follow_step unlimited' taken]
    exact bind_of_ok (followInstruction_push rfl rfl (show [].length < stackLimit by decide) _)

/-! ## Texts that are code -/

/-- Instructions whose bytes can begin a text. Behind them comes the verdict on the first rule and the end
of the code. -/
structure Disguise where
  code : List Instruction
  ascii : ∀ byte ∈ encodeAll (code ++ [.verdict 0, .halt]), byte < 0x80
  short : (encodeAll (code ++ [.verdict 0, .halt])).length ≤ UInt32.size

namespace Disguise

variable (disguise : Disguise)

def bytes : List UInt8 := encodeAll (disguise.code ++ [.verdict 0, .halt])

/-- The text has as many bytes as there are words of thirty-two bits. -/
def text : String :=
  Text.ofAscii (disguise.bytes ++ List.replicate (UInt32.size - disguise.bytes.length) 0)

theorem toUTF8_text : disguise.text.toUTF8.toList =
    disguise.bytes ++ List.replicate (UInt32.size - disguise.bytes.length) 0 := by
  refine Text.toUTF8_ofAscii fun byte member => ?_
  rcases List.mem_append.mp member with ofCode | padding
  · exact disguise.ascii byte ofCode
  · rw [List.eq_of_mem_replicate padding]
    decide

theorem length_text : disguise.text.toUTF8.toList.length = UInt32.size := by
  rw [toUTF8_text, List.length_append, List.length_replicate]
  exact Nat.add_sub_cancel' disguise.short

theorem isTruthy_text (meaning : Meaning) :
    ((Condition.text disguise.text).eval meaning).isTruthy = true := by
  have filled : disguise.text.toUTF8.toList ≠ [] := by
    rw [← List.length_pos_iff, length_text]
    decide
  simpa [Condition.eval, Value.isTruthy] using filled

/-- If the first condition is such a text, the code in it is evaluated and nothing else: its verdict on
the first rule is the only one. -/
theorem evaluate_eq (gives : collection.Gives compilation rules) {more : List Instruction}
    (coded : compilation.code.reverse.flatten = .pushBytes disguise.text.toUTF8.toList :: more)
    (unlimited : context.timeout = 0)
    (inRange : ∀ instruction ∈ disguise.code,
      instruction.InRange rules.strings.size rules.rules.size)
    (puts : ∀ instruction ∈ disguise.code, putsValue instruction = true)
    (known : 0 < rules.rules.size) {value : Value} {stack : List Value}
    (computed : ∀ clock, compute rules { context with clock } [.bytes []] disguise.code =
      .ok (value :: stack)) :
    ∃ clock times, evaluate rules context =
      .ok () { recordVerdict rules 0 value context with clock, ruleTimes := times } := by
  have unsized : UInt32.ofNat disguise.text.toUTF8.toList.length = 0 := by
    rw [length_text]
    rfl
  obtain ⟨left, timer, clock, enough, followed⟩ := exists_follow_unsized gives coded unsized unlimited
  have unlimited' : { context with clock }.timeout = 0 := unlimited
  have few := (length_le_encodeAll _).trans disguise.short
  rw [List.length_append, List.length_cons, List.length_singleton] at few
  rw [length_text] at enough
  obtain ⟨more', rfl⟩ : ∃ more', left = disguise.code.length + (more' + 1 + 1) :=
    ⟨left - disguise.code.length - 2, by omega⟩
  rw [toUTF8_text] at followed
  generalize List.replicate _ (0 : UInt8) = padding at followed
  have encoded : disguise.bytes ++ padding ++ encodeAll (more ++ [.halt]) =
      encodeAll disguise.code ++ ((Instruction.verdict 0).encode ++
        (Instruction.halt.encode ++ (padding ++ encodeAll (more ++ [.halt])))) := by
    simp only [bytes, encodeAll, List.flatMap_append, List.flatMap_cons, List.flatMap_nil,
      List.append_nil, List.append_assoc]
  obtain ⟨clock', times, timer', judged⟩ := follow_verdict unlimited' (show (0 : UInt32).toNat < _ from
    known) value stack (more' + 1) (5 + (encodeAll disguise.code).length)
    (Instruction.halt.encode ++ (padding ++ encodeAll (more ++ [.halt]))) (1 + disguise.code.length)
    timer
  rw [encoded, follow_compute unlimited' inRange puts, computed clock] at followed
  refine ⟨clock', times, followed.trans (judged.trans ?_)⟩
  have same : recordVerdict rules 0 value { context with clock } =
      { recordVerdict rules 0 value context with clock } := recordVerdict_clock ..
  have unlimited'' : { recordVerdict rules 0 value context with
      clock := clock', ruleTimes := times }.timeout = 0 := by
    rw [recordVerdict_eq]
    exact unlimited
  rw [show (0 : UInt32).toNat = 0 from rfl, same, follow_step unlimited'' rfl]
  rfl

end Disguise

end ByteScan.Scan
