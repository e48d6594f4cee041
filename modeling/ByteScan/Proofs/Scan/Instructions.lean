import ByteScan.Proofs.RuleSet.Consistency
import ByteScan.Proofs.Scan.Verdicts

/-!
# Instructions of a rule set

The code of a rule set is taken apart from its start, one instruction after another. In a compiled rule
set these are the instructions of the conditions: their operands are in range, and they ask for nothing
that the conditions do not ask for.
-/

namespace ByteScan

def Instruction.asksData : Instruction → Bool
  | .fileSize | .entryPoint => true
  | _ => false

def Condition.asksData : Condition → Bool
  | .fileSize | .entryPoint => true
  | .foundAt _ inner | .not inner => inner.asksData
  | .foundIn _ left right | .and left right | .or left right | .compare _ left right
  | .contains left right => left.asksData || right.asksData
  | _ => false

/-- The instructions that code holds up to where it ends; `left` bounds how many these are. -/
def CodePlace.instructions (strings rules : Nat) : Nat → CodePlace → List Instruction
  | 0, _ => []
  | left + 1, place =>
    match place.takeInstruction strings rules with
    | .error _ => []
    | .ok (.halt, _) => [.halt]
    | .ok (instruction, place) => instruction :: instructions strings rules left place

theorem CodePlace.instructions_succ {strings rules : Nat} {place next : CodePlace}
    {instruction : Instruction}
    (taken : place.takeInstruction strings rules = .ok (instruction, next)) (left : Nat) :
    place.instructions strings rules (left + 1) =
      instruction :: if instruction = .halt then [] else next.instructions strings rules left := by
  by_cases isHalt : instruction = .halt
  · subst isHalt
    simp only [instructions, taken, if_true]
  · simp only [instructions, taken, if_neg isHalt]

def RuleSet.instructions (rules : RuleSet) : List Instruction :=
  let code := rules.code.drop rules.codeStart
  CodePlace.instructions rules.strings.size rules.rules.size (code.length + 1)
    ⟨rules.codeStart, code⟩

theorem CodePlace.mem_of_mem_instructions {strings rules left position : Nat}
    {written : List Instruction}
    (inRange : ∀ instruction ∈ written, instruction.InRange strings rules)
    {instruction : Instruction}
    (member : instruction ∈ instructions strings rules left ⟨position, encodeAll written⟩) :
    instruction ∈ written := by
  induction left generalizing position written with
  | zero => cases member
  | succ left ih =>
      cases written with
      | nil => cases member
      | cons first others =>
          obtain ⟨isInRange, restInRange⟩ := List.forall_mem_cons.mp inRange
          have taken := takeInstruction_encode isInRange (encodeAll others) position
          have whole : encodeAll (first :: others) = first.encode ++ encodeAll others :=
            List.flatMap_cons
          rw [whole, instructions_succ taken left] at member
          rcases List.mem_cons.mp member with same | isLater
          · exact same ▸ List.mem_cons_self
          · split at isLater
            · cases isLater
            · exact List.mem_cons_of_mem _ (ih restInRange isLater)

/-- Giving external variables values leaves the instructions as they are. -/
theorem RuleSet.Redefines.instructions_eq {rules after : RuleSet} (redefines : rules.Redefines after) :
    after.instructions = rules.instructions := by
  obtain ⟨externals, rfl, _⟩ := redefines.exists_externals
  rfl

namespace Scan

/-! ## The code of a condition -/

structure ScopeInRange (strings rules : Nat) (scope : Scope) : Prop where
  string : ∀ name number, scope.strings.lookup name = some number → number < strings
  owner : scope.number < rules
  earlier : ∀ name number, scope.earlierRule? name = some number → number < rules

structure Suits (strings rules : Nat) (condition : Condition) (instruction : Instruction) : Prop where
  inRange : instruction.InRange strings rules
  puts : putsValue instruction = true
  silent : condition.asksData = false → instruction.asksData = false

section

variable {strings rules : Nat} {condition : Condition} {code : List Instruction}
  {instruction : Instruction}

theorem Suits.imp {inner : Condition} (suits : Suits strings rules inner instruction)
    (asks : condition.asksData = false → inner.asksData = false) :
    Suits strings rules condition instruction :=
  ⟨suits.inRange, suits.puts, fun silent => suits.silent (asks silent)⟩

theorem suits_unary {inner : Condition} (asks : condition.asksData = inner.asksData)
    (operand : ∀ instruction ∈ code, Suits strings rules inner instruction)
    (own : Suits strings rules condition instruction) :
    ∀ other ∈ code ++ [instruction], Suits strings rules condition other := by
  refine List.forall_mem_append.mpr ⟨?_, List.forall_mem_singleton.mpr own⟩
  intro other member
  exact (operand other member).imp asks.symm.trans

theorem suits_binary {left right : Condition} {more : List Instruction}
    (asks : condition.asksData = (left.asksData || right.asksData))
    (first : ∀ instruction ∈ code, Suits strings rules left instruction)
    (second : ∀ instruction ∈ more, Suits strings rules right instruction)
    (own : Suits strings rules condition instruction) :
    ∀ other ∈ code ++ more ++ [instruction], Suits strings rules condition other := by
  have both (silent : condition.asksData = false) := Bool.or_eq_false_iff.mp (asks.symm.trans silent)
  refine List.forall_mem_append.mpr ⟨List.forall_mem_append.mpr ⟨?_, ?_⟩,
    List.forall_mem_singleton.mpr own⟩
  · intro other member
    exact (first other member).imp fun silent => (both silent).1
  · intro other member
    exact (second other member).imp fun silent => (both silent).2

end

section

variable {strings rules : Nat} {scope : Scope} (known : ScopeInRange strings rules scope)
include known

theorem string_inRange {name : String} {number : UInt32} (found : scope.string name = .ok number) :
    number.toNat < strings := by
  rw [Scope.string] at found
  split at found
  · rename_i string same
    cases found
    exact Nat.lt_of_le_of_lt (Nat.mod_le _ _) (known.string name string same)
  · cases found

theorem earlierRule_inRange {name : String} {number : UInt32}
    (found : scope.earlierRule name = .ok number) : number.toNat < rules := by
  rw [Scope.earlierRule] at found
  split at found
  · rename_i rule same
    cases found
    exact Nat.lt_of_le_of_lt (Nat.mod_le _ _) (known.earlier name rule same)
  · cases found

theorem owner_inRange : (UInt32.ofNat scope.number).toNat < rules :=
  Nat.lt_of_le_of_lt (Nat.mod_le _ _) known.owner

theorem suits_ofThem {condition : Condition} {minimum : UInt32} {instructions : List Instruction}
    (compiled : scope.ofThem minimum = .ok instructions) :
    ∀ instruction ∈ instructions, Suits strings rules condition instruction := by
  rw [Scope.ofThem] at compiled
  split at compiled
  · cases compiled
  · cases compiled
    exact List.forall_mem_singleton.mpr ⟨owner_inRange known, rfl, fun _ => rfl⟩

theorem suits_of_code {condition : Condition} {instructions : List Instruction}
    (compiled : condition.code scope = .ok instructions) (literals : condition.LiteralsFit) :
    ∀ instruction ∈ instructions, Suits strings rules condition instruction := by
  induction condition generalizing instructions with
  | truth value | integer value | float value | text value =>
      cases compiled
      exact List.forall_mem_singleton.mpr ⟨literals, rfl, fun _ => rfl⟩
  | found name | count name =>
      obtain ⟨string, isString, same⟩ := bind_eq_ok compiled
      cases same
      exact List.forall_mem_singleton.mpr ⟨string_inRange known isString, rfl, fun _ => rfl⟩
  | foundAt name address ih =>
      obtain ⟨string, isString, rest⟩ := bind_eq_ok compiled
      obtain ⟨code, isCode, same⟩ := bind_eq_ok rest
      cases same
      have asks : (Condition.foundAt name address).asksData = address.asksData := rfl
      exact suits_unary asks (ih isCode literals)
        ⟨string_inRange known isString, rfl, fun _ => rfl⟩
  | foundIn name low high ihLow ihHigh =>
      obtain ⟨string, isString, rest⟩ := bind_eq_ok compiled
      obtain ⟨lowCode, isLow, rest⟩ := bind_eq_ok rest
      obtain ⟨highCode, isHigh, same⟩ := bind_eq_ok rest
      cases same
      exact suits_binary rfl (ihLow isLow literals.1) (ihHigh isHigh literals.2)
        ⟨string_inRange known isString, rfl, fun _ => rfl⟩
  | anyOfThem | allOfThem | ofThem => exact suits_ofThem known compiled
  | fileSize | entryPoint =>
      cases compiled
      exact List.forall_mem_singleton.mpr ⟨trivial, rfl, id⟩
  | rule name =>
      obtain ⟨number, isNumber, same⟩ := bind_eq_ok compiled
      cases same
      exact List.forall_mem_singleton.mpr ⟨earlierRule_inRange known isNumber, rfl, fun _ => rfl⟩
  | external name =>
      obtain ⟨index, _, same⟩ := bind_eq_ok compiled
      cases same
      exact List.forall_mem_singleton.mpr ⟨trivial, rfl, fun _ => rfl⟩
  | not inner ih =>
      obtain ⟨code, isCode, same⟩ := bind_eq_ok compiled
      cases same
      have asks : inner.not.asksData = inner.asksData := rfl
      exact suits_unary asks (ih isCode literals) ⟨trivial, rfl, fun _ => rfl⟩
  | and left right ihLeft ihRight | or left right ihLeft ihRight
  | compare comparison left right ihLeft ihRight | contains left right ihLeft ihRight =>
      obtain ⟨leftCode, isLeft, rest⟩ := bind_eq_ok compiled
      obtain ⟨rightCode, isRight, same⟩ := bind_eq_ok rest
      cases same
      exact suits_binary rfl (ihLeft isLeft literals.1) (ihRight isRight literals.2)
        ⟨trivial, rfl, fun _ => rfl⟩

end

/-! ## The code of a rule set -/

/-- The operands of all instructions that a collection is compiled to are in range, and an instruction
asks for the data only where a condition does. -/
theorem suits_of_compilation {collection : Collection} {compilation : Compilation} {rules : RuleSet}
    (gives : collection.Gives compilation rules) (numbered : compilation.Numbered collection.rules)
    (literals : ∀ entry ∈ collection.rules, entry.2.condition.LiteralsFit)
    {instructions : List Instruction} (listed : instructions ∈ compilation.code.reverse) :
    ∃ entry ∈ collection.rules, ∃ scope code number, instructions = code ++ [.verdict number] ∧
      number.toNat < rules.rules.size ∧ entry.2.condition.code scope = .ok code ∧
      ∀ instruction ∈ code,
        Suits rules.strings.size rules.rules.size entry.2.condition instruction := by
  obtain ⟨number, coded⟩ := List.mem_iff_getElem?.mp listed
  have within : number < collection.rules.length := by
    have inCode := (List.getElem?_eq_some_iff.mp coded).1
    rwa [List.length_reverse, numbered.codes] at inCode
  obtain ⟨rule, scope, own, declares⟩ :=
    numbered.each number _ _ (List.getElem?_eq_getElem within)
  cases declares.coded.symm.trans coded
  obtain ⟨code, isCode, same⟩ := bind_eq_ok declares.compiled
  cases same
  have known : ScopeInRange rules.strings.size rules.rules.size scope := by
    constructor
    case string =>
      intro name string found
      obtain ⟨before, later, whole, _⟩ := List.lookup_eq_some_iff.mp found
      have listed : (name, string) ∈ scope.strings := whole ▸ List.mem_append_right _ List.mem_cons_self
      obtain ⟨definition, isString, _⟩ := declares.names _ listed
      rw [gives.sameStrings]
      exact (Array.getElem?_eq_some_iff.mp isString).1
    case owner =>
      rw [declares.sameNumber, gives.sameRules]
      exact (Array.getElem?_eq_some_iff.mp declares.listed).1
    case earlier =>
      intro name earlier found
      rw [declares.sameEarlier] at found
      rw [gives.sameRules, numbered.count]
      exact (earlierRule?_lt found).2
  have member := List.getElem_mem within
  exact ⟨_, member, scope, code, _, rfl, owner_inRange known, isCode,
    suits_of_code known isCode (literals _ member)⟩

/-- The instructions of a compiled rule set are those of the conditions, each followed by a verdict, and
one that ends the code. -/
theorem origin_of_compiled {collection : Collection} {rules : RuleSet}
    (compiled : collection.compile = .ok rules)
    (literals : ∀ entry ∈ collection.rules, entry.2.condition.LiteralsFit)
    {instruction : Instruction} (member : instruction ∈ rules.instructions) :
    instruction = .halt ∨ (∃ number, instruction = .verdict number) ∨
      ∃ entry ∈ collection.rules, ∃ scope code, entry.2.condition.code scope = .ok code ∧
        instruction ∈ code ∧
        Suits rules.strings.size rules.rules.size entry.2.condition instruction := by
  obtain ⟨_, compilation, isCompilation, gives⟩ := Collection.compile_eq_ok compiled
  obtain ⟨numbered, _⟩ := (Compilation.numbered_start _).addRules isCompilation
  have inRange : ∀ instruction ∈ compilation.code.reverse.flatten ++ [.halt],
      instruction.InRange rules.strings.size rules.rules.size := by
    refine List.forall_mem_append.mpr ⟨?_, List.forall_mem_singleton.mpr trivial⟩
    intro instruction member
    obtain ⟨instructions, listed, member⟩ := List.mem_flatten.mp member
    obtain ⟨_, _, _, code, number, rfl, within, _, suits⟩ :=
      suits_of_compilation gives numbered literals listed
    rcases List.mem_append.mp member with inCode | isVerdict
    · exact (suits instruction inCode).inRange
    · rw [List.mem_singleton.mp isVerdict]
      exact within
  rw [RuleSet.instructions, gives.start, List.drop_zero, gives.sameCode] at member
  rcases List.mem_append.mp (CodePlace.mem_of_mem_instructions inRange member) with inRules | isHalt
  · obtain ⟨instructions, listed, member⟩ := List.mem_flatten.mp inRules
    obtain ⟨entry, isEntry, scope, code, number, rfl, _, isCode, suits⟩ :=
      suits_of_compilation gives numbered literals listed
    rcases List.mem_append.mp member with inCode | isVerdict
    · exact .inr (.inr ⟨entry, isEntry, scope, code, isCode, inCode, suits instruction inCode⟩)
    · exact .inr (.inl ⟨number, List.mem_singleton.mp isVerdict⟩)
  · exact .inl (List.mem_singleton.mp isHalt)

/-- Where no condition of a compiled rule set asks for the size or the entry point of the data, no
instruction does. -/
theorem silent_of_compiled {collection : Collection} {rules : RuleSet}
    (compiled : collection.compile = .ok rules)
    (literals : ∀ entry ∈ collection.rules, entry.2.condition.LiteralsFit)
    (silent : ∀ entry ∈ collection.rules, entry.2.condition.asksData = false) :
    ∀ instruction ∈ rules.instructions, instruction.asksData = false := by
  intro instruction member
  obtain rfl | ⟨_, rfl⟩ | ⟨entry, isEntry, _, _, _, _, suits⟩ :=
    origin_of_compiled compiled literals member
  · rfl
  · rfl
  · exact suits.silent (silent entry isEntry)

end Scan

end ByteScan
