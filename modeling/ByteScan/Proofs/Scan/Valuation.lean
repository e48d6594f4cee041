import ByteScan.Condition.Code
import ByteScan.Proofs.Condition.Meaning
import ByteScan.Proofs.Success
import ByteScan.Proofs.Scan.Following
import ByteScan.Proofs.Scan.Matches

/-!
# Code leaves the value of its condition

The code of a condition was compiled for names that mean something in its scope. Where they mean the
same to the machine, the code puts the value of the condition on the stack. `Runs.eval` says so, by
recursion over the condition, of every way of following code; where nothing can go wrong the way is
`Pushes`.
-/

namespace ByteScan.Scan

variable {rules : RuleSet} {context : Context}

/-- What the names of a scope mean, the machine finds under their numbers. -/
structure Understands (rules : RuleSet) (context : Context) (scope : Scope) (meaning : Meaning) :
    Prop where
  string : ∀ name number, scope.strings.lookup name = some number →
    number < rules.strings.size ∧ number < UInt32.size ∧
      meaning.matchesOf name = context.matchesOf number
  owner : ∃ rule, rules.rules[scope.number]? = some rule ∧
    meaning.ownMatches = rule.strings.map context.matchesOf
  ownCount : meaning.ownMatches.length = scope.strings.length
  ownerFits : scope.number < UInt32.size
  countFits : scope.strings.length < UInt32.size
  earlier : ∀ name number, scope.earlierRule? name = some number →
    number < rules.rules.size ∧ number < UInt32.size ∧
      meaning.verdict name = context.ruleMatched number
  external : ∀ name index, scope.externals.findIdx? (· == name) = some index →
    index < UInt32.size ∧ ∃ external, rules.externals[index]? = some external ∧
      meaning.object name = (context.object? external.identifier).getD .undefined
  fileSize : meaning.fileSize = context.fileSize
  entryPoint : meaning.entryPoint = context.entryPoint

/-- The addresses of all matches are addresses. -/
def AddressesFit (context : Context) : Prop :=
  ∀ string, ∀ found ∈ context.matchesOf string, found.base.toNat + found.offset < UInt64.size

/-! ## Questions about matches -/

theorem anyAddress_cases (property : Int64 → Bool) (list : List Match) :
    anyAddress property list = .ok (list.any fun found => property found.place) ∨
      anyAddress property list = .error .unreachableData ∧
        ¬∀ found ∈ list, found.base.toNat + found.offset < UInt64.size := by
  induction list with
  | nil => exact Or.inl rfl
  | cons found others ih =>
      rw [anyAddress, List.any_cons]
      by_cases fits : found.base.toNat + found.offset < UInt64.size
      · have address : found.address? = some (UInt64.ofNat (found.base.toNat + found.offset)) := by
          simp only [Match.address?, if_pos fits]
        rw [address]
        simp only
        change (if property found.place then _ else _) = _ ∨
          (if property found.place then _ else _) = _ ∧ _
        split
        · rename_i holds
          rw [holds, Bool.true_or]
          exact Or.inl rfl
        · rename_i fails
          rw [Bool.not_eq_true] at fails
          rw [fails, Bool.false_or]
          rcases ih with decided | ⟨missed, unfit⟩
          · exact Or.inl decided
          · exact Or.inr ⟨missed, mt List.forall_mem_of_forall_mem_cons unfit⟩
      · have address : found.address? = none := by
          simp only [Match.address?, if_neg fits]
        rw [address]
        exact Or.inr ⟨rfl, fun all => fits (all found List.mem_cons_self)⟩

theorem isEmpty_matchesOf (context : Context) (string : Nat) :
    (!(context.matchesOf string).isEmpty) = decide (0 < context.matchCount string) := by
  rw [← Context.length_matchesOf, Bool.eq_iff_iff, decide_eq_true_eq, Bool.not_eq_true',
    List.isEmpty_eq_false_iff, List.length_pos_iff]

theorem countFound_eq (context : Context) (rule : Rule) :
    countFound context (some rule) =
      (rule.strings.map context.matchesOf).countP fun found => !found.isEmpty := by
  rw [countFound, List.countP_map]
  congr 1
  funext string
  exact (isEmpty_matchesOf context string).symm

/-! ## Ways of following code -/

/-- An instruction gives a value, unless some match lies beyond all addresses. -/
def Answers (rules : RuleSet) (context : Context) (stack : List Value) (instruction : Instruction)
    (value : Value) (below : List Value) : Prop :=
  valueOf rules context stack instruction = .ok (value, below) ∨
    valueOf rules context stack instruction = .error .unreachableData ∧ ¬AddressesFit context

theorem answers_anyAddress (property : Int64 → Bool) (string : Nat) {stack below : List Value}
    {instruction : Instruction}
    (asks : valueOf rules context stack instruction = (do
      let found ← anyAddress property (context.matchesOf string)
      .ok (.boolean found, below))) :
    Answers rules context stack instruction
      (.boolean ((context.matchesOf string).any fun found => property found.place)) below := by
  rw [Answers, asks]
  rcases anyAddress_cases property (context.matchesOf string) with decided | ⟨missed, unfit⟩
  · left
    rw [decided]
    rfl
  · right
    rw [missed]
    exact ⟨rfl, fun fit => unfit (fit string)⟩

/-- A way in which code leads from one stack to another: code leads on after code, and an instruction
leads to the value that it gives where fewer values than the limit lie below it. -/
structure Runs (rules : RuleSet) (context : Context) (limit : Nat)
    (leads : List Instruction → List Value → List Value → Prop) : Prop where
  append : ∀ {first second : List Instruction} {start middle finish : List Value},
    leads first start middle → leads second middle finish → leads (first ++ second) start finish
  single : ∀ {instruction : Instruction} {stack below : List Value} {value : Value},
    instruction.InRange rules.strings.size rules.rules.size → putsValue instruction = true →
    Answers rules context stack instruction value below → below.length < limit →
    leads [instruction] stack (value :: below)

theorem runs_pushes (unlimited : context.timeout = 0) (fit : AddressesFit context) :
    Runs rules context stackLimit (Pushes rules context) where
  append := Pushes.append
  single := by
    intro instruction stack below value inRange puts gives room
    rcases gives with gives | ⟨_, unfit⟩
    · exact Pushes.single unlimited inRange puts gives room
    · exact absurd fit unfit

section

variable {limit : Nat} {leads : List Instruction → List Value → List Value → Prop}
  (runs : Runs rules context limit leads)
include runs

theorem Runs.unary {code : List Instruction} {instruction : Instruction} {stack : List Value}
    {value result : Value} (operand : leads code stack (value :: stack))
    (inRange : instruction.InRange rules.strings.size rules.rules.size)
    (puts : putsValue instruction = true)
    (gives : Answers rules context (value :: stack) instruction result stack)
    (room : stack.length < limit) : leads (code ++ [instruction]) stack (result :: stack) :=
  runs.append operand (runs.single inRange puts gives room)

theorem Runs.binary {first second : List Instruction} {instruction : Instruction}
    {stack : List Value} {left right result : Value} (early : leads first stack (left :: stack))
    (late : leads second (left :: stack) (right :: left :: stack))
    (inRange : instruction.InRange rules.strings.size rules.rules.size)
    (puts : putsValue instruction = true)
    (gives : Answers rules context (right :: left :: stack) instruction result stack)
    (room : stack.length < limit) :
    leads (first ++ second ++ [instruction]) stack (result :: stack) :=
  runs.append (runs.append early late) (runs.single inRange puts gives room)

end

theorem lt_limit_of_room {condition : Condition} {stack : List Value} {limit : Nat}
    (room : stack.length + condition.stackNeed ≤ limit) : stack.length < limit := by
  have positive := condition.stackNeed_pos
  omega

theorem room_of_binary {stack : List Value} {left right limit : Nat}
    (room : stack.length + max left (right + 1) ≤ limit) (value : Value) :
    stack.length + left ≤ limit ∧ (value :: stack).length + right ≤ limit := by
  rw [List.length_cons]
  omega

/-! ## The value of a condition -/

theorem one_le_countP (property : α → Bool) (items : List α) :
    decide ((1 : UInt32).toNat ≤ items.countP property) = items.any property := by
  rw [Bool.eq_iff_iff, decide_eq_true_eq, List.any_eq_true]
  exact List.countP_pos_iff

theorem length_le_countP (property : α → Bool) (items : List α) :
    decide (items.length ≤ items.countP property) = items.all property := by
  rw [Bool.eq_iff_iff, decide_eq_true_eq, List.all_eq_true, ← List.countP_eq_length]
  exact ⟨fun enough => Nat.le_antisymm List.countP_le_length enough, fun same => same.ge⟩

section

variable {scope : Scope} {meaning : Meaning} (understands : Understands rules context scope meaning)
include understands

theorem Understands.string_spec {name : String} {number : UInt32}
    (found : scope.string name = .ok number) :
    number.toNat < rules.strings.size ∧
      meaning.matchesOf name = context.matchesOf number.toNat := by
  rw [Scope.string] at found
  split at found
  · rename_i string same
    cases found
    obtain ⟨known, small, means⟩ := understands.string name string same
    rw [UInt32.toNat_ofNat_of_lt' small]
    exact ⟨known, means⟩
  · cases found

theorem Understands.rule_spec {name : String} {number : UInt32}
    (found : scope.earlierRule name = .ok number) :
    number.toNat < rules.rules.size ∧ meaning.verdict name = context.ruleMatched number.toNat := by
  rw [Scope.earlierRule] at found
  split at found
  · rename_i rule same
    cases found
    obtain ⟨known, small, means⟩ := understands.earlier name rule same
    rw [UInt32.toNat_ofNat_of_lt' small]
    exact ⟨known, means⟩
  · cases found

theorem Understands.external_spec {name : String} {index : UInt32}
    (found : scope.external name = .ok index) :
    ∃ external, rules.externals[index.toNat]? = some external ∧
      meaning.object name = (context.object? external.identifier).getD .undefined := by
  rw [Scope.external] at found
  split at found
  · rename_i position same
    cases found
    obtain ⟨small, external, listed, means⟩ := understands.external name position same
    rw [UInt32.toNat_ofNat_of_lt' small]
    exact ⟨external, listed, means⟩
  · cases found

variable {limit : Nat} {leads : List Instruction → List Value → List Value → Prop}
  (runs : Runs rules context limit leads)
include runs

theorem Runs.ofThem {minimum : UInt32} {instructions : List Instruction}
    (compiled : scope.ofThem minimum = .ok instructions) {stack : List Value}
    (room : stack.length < limit) :
    leads instructions stack
      (.boolean (minimum.toNat ≤ meaning.ownMatches.countP fun found => !found.isEmpty) ::
        stack) := by
  rw [Scope.ofThem] at compiled
  split at compiled
  · cases compiled
  · cases compiled
    obtain ⟨rule, listed, own⟩ := understands.owner
    have owner : (UInt32.ofNat scope.number).toNat = scope.number :=
      UInt32.toNat_ofNat_of_lt' understands.ownerFits
    refine runs.single ?_ rfl (Or.inl ?_) room
    · rw [Instruction.InRange, owner]
      exact (Array.getElem?_eq_some_iff.mp listed).1
    · rw [valueOf, owner, listed, countFound_eq, own]

/-- The code of a condition leads to its value on the stack. -/
theorem Runs.eval {condition : Condition} {instructions : List Instruction}
    (compiled : condition.code scope = .ok instructions) (literals : condition.LiteralsFit)
    {stack : List Value} (room : stack.length + condition.stackNeed ≤ limit) :
    leads instructions stack (condition.eval meaning :: stack) := by
  induction condition generalizing stack instructions with
  | truth value | integer value | float value | text value =>
      cases compiled
      refine runs.single ?_ rfl (Or.inl rfl) (lt_limit_of_room room)
      exact literals
  | found name =>
      obtain ⟨string, isString, same⟩ := bind_eq_ok compiled
      cases same
      obtain ⟨known, means⟩ := understands.string_spec isString
      refine runs.single ?_ rfl (Or.inl ?_) (lt_limit_of_room room)
      · exact known
      · rw [valueOf, Condition.eval, means, isEmpty_matchesOf]
  | count name =>
      obtain ⟨string, isString, same⟩ := bind_eq_ok compiled
      cases same
      obtain ⟨known, means⟩ := understands.string_spec isString
      refine runs.single ?_ rfl (Or.inl ?_) (lt_limit_of_room room)
      · exact known
      · rw [valueOf, Condition.eval, means, Context.length_matchesOf]
  | foundAt name address ih =>
      obtain ⟨string, isString, rest⟩ := bind_eq_ok compiled
      obtain ⟨code, isCode, same⟩ := bind_eq_ok rest
      cases same
      obtain ⟨known, means⟩ := understands.string_spec isString
      refine runs.unary (ih isCode literals room) ?_ rfl ?_ (lt_limit_of_room room)
      · exact known
      · rw [Condition.eval, means]
        cases address.eval meaning with
        | integer address => exact answers_anyAddress (· == address) string.toNat rfl
        | _ => exact Or.inl rfl
  | foundIn name low high ihLow ihHigh =>
      obtain ⟨string, isString, rest⟩ := bind_eq_ok compiled
      obtain ⟨lowCode, isLow, rest⟩ := bind_eq_ok rest
      obtain ⟨highCode, isHigh, same⟩ := bind_eq_ok rest
      cases same
      obtain ⟨known, means⟩ := understands.string_spec isString
      obtain ⟨lowRoom, highRoom⟩ := room_of_binary room (low.eval meaning)
      refine runs.binary (ihLow isLow literals.1 lowRoom) (ihHigh isHigh literals.2 highRoom)
        ?_ rfl ?_ (lt_limit_of_room room)
      · exact known
      · rw [Condition.eval, means]
        cases low.eval meaning with
        | integer low =>
            cases high.eval meaning with
            | integer high =>
                exact answers_anyAddress (fun place => low ≤ place && place ≤ high) string.toNat rfl
            | _ => exact Or.inl rfl
        | _ => exact Or.inl rfl
  | anyOfThem =>
      have pushed := runs.ofThem understands compiled (lt_limit_of_room room)
      rwa [one_le_countP] at pushed
  | allOfThem =>
      have pushed := runs.ofThem understands compiled (lt_limit_of_room room)
      rwa [UInt32.toNat_ofNat_of_lt' understands.countFits, ← understands.ownCount,
        length_le_countP] at pushed
  | ofThem minimum => exact runs.ofThem understands compiled (lt_limit_of_room room)
  | fileSize =>
      cases compiled
      refine runs.single (by trivial) rfl (Or.inl ?_) (lt_limit_of_room room)
      rw [valueOf, Condition.eval, understands.fileSize]
  | entryPoint =>
      cases compiled
      refine runs.single (by trivial) rfl (Or.inl ?_) (lt_limit_of_room room)
      rw [valueOf, Condition.eval, understands.entryPoint]
      cases context.entryPoint <;> rfl
  | rule name =>
      obtain ⟨number, isNumber, same⟩ := bind_eq_ok compiled
      cases same
      obtain ⟨known, means⟩ := understands.rule_spec isNumber
      refine runs.single ?_ rfl (Or.inl ?_) (lt_limit_of_room room)
      · exact known
      · rw [valueOf, Condition.eval, means]
  | external name =>
      obtain ⟨index, isIndex, same⟩ := bind_eq_ok compiled
      cases same
      obtain ⟨external, listed, means⟩ := understands.external_spec isIndex
      refine runs.single (by trivial) rfl (Or.inl ?_) (lt_limit_of_room room)
      rw [valueOf, Condition.eval, listed, means]
  | not inner ih =>
      obtain ⟨code, isCode, same⟩ := bind_eq_ok compiled
      cases same
      refine runs.unary (ih isCode literals room) (by trivial) rfl (Or.inl ?_)
        (lt_limit_of_room room)
      rw [valueOf, Condition.eval]
      cases inner.eval meaning <;> rfl
  | and left right ihLeft ihRight | or left right ihLeft ihRight =>
      obtain ⟨leftCode, isLeft, rest⟩ := bind_eq_ok compiled
      obtain ⟨rightCode, isRight, same⟩ := bind_eq_ok rest
      cases same
      obtain ⟨leftRoom, rightRoom⟩ := room_of_binary room (left.eval meaning)
      exact runs.binary (ihLeft isLeft literals.1 leftRoom) (ihRight isRight literals.2 rightRoom)
        (by trivial) rfl (Or.inl rfl) (lt_limit_of_room room)
  | compare comparison left right ihLeft ihRight =>
      obtain ⟨leftCode, isLeft, rest⟩ := bind_eq_ok compiled
      obtain ⟨rightCode, isRight, same⟩ := bind_eq_ok rest
      cases same
      obtain ⟨leftRoom, rightRoom⟩ := room_of_binary room (left.eval meaning)
      exact runs.binary (ihLeft isLeft literals.1 leftRoom) (ihRight isRight literals.2 rightRoom)
        (by trivial) rfl (Or.inl rfl) (lt_limit_of_room room)
  | contains whole part ihWhole ihPart =>
      obtain ⟨wholeCode, isWhole, rest⟩ := bind_eq_ok compiled
      obtain ⟨partCode, isPart, same⟩ := bind_eq_ok rest
      cases same
      obtain ⟨wholeRoom, partRoom⟩ := room_of_binary room (whole.eval meaning)
      refine runs.binary (ihWhole isWhole literals.1 wholeRoom) (ihPart isPart literals.2 partRoom)
        (by trivial) rfl (Or.inl ?_) (lt_limit_of_room room)
      rw [valueOf, Condition.eval]
      simp only [popTwo, pop, bind, Except.bind]
      cases whole.eval meaning with
      | bytes whole =>
          cases part.eval meaning with
          | bytes part => simp only [Value.contains, Value.occursIn_eq]
          | _ => rfl
      | _ => rfl

end

end ByteScan.Scan
