import ByteScan.Proofs.Scan.Instructions
import ByteScan.Proofs.Scan.Verdicts

/-!
# What code computes

Without a time limit, what becomes of the stack when the code of a condition is followed is a function of
the code, the stack and the matches: `compute`. The code of a condition leaves one value, so the code of
each rule of a rule set begins with an empty stack: `follow_rule_cases`.
-/

namespace ByteScan.Scan

def compute (rules : RuleSet) (context : Context) :
    List Value → List Instruction → Except Error (List Value)
  | stack, [] => .ok stack
  | stack, instruction :: code =>
    match valueOf rules context stack instruction with
    | .error error => .error error
    | .ok (value, below) =>
      if hasAtLeast stackLimit below then .error (codeError .stackOverflow)
      else compute rules context (value :: below) code

variable {rules : RuleSet} {context : Context}

theorem compute_append (stack : List Value) (code more : List Instruction) :
    compute rules context stack (code ++ more) =
      (compute rules context stack code >>= fun middle => compute rules context middle more) := by
  induction code generalizing stack with
  | nil => rfl
  | cons instruction code ih =>
      rw [List.cons_append, compute, compute]
      cases valueOf rules context stack instruction with
      | error error => rfl
      | ok result =>
          dsimp only
          split
          · rfl
          · exact ih _

theorem follow_compute (unlimited : context.timeout = 0) {code : List Instruction}
    (inRange : ∀ instruction ∈ code, instruction.InRange rules.strings.size rules.rules.size)
    (puts : ∀ instruction ∈ code, putsValue instruction = true) (left position : Nat)
    (rest : List UInt8) (stack : List Value) (begun : Nat) (timer : Option Nanoseconds) :
    follow rules (code.length + left) ⟨⟨position, encodeAll code ++ rest⟩, stack, begun, timer⟩
        context =
      match compute rules context stack code with
      | .error error => .error error context
      | .ok after => follow rules left
          ⟨⟨position + (encodeAll code).length, rest⟩, after, begun + code.length, timer⟩ context := by
  induction code generalizing position stack begun with
  | nil =>
      rw [List.length_nil, Nat.zero_add]
      rfl
  | cons instruction code ih =>
      obtain ⟨isInRange, restInRange⟩ := List.forall_mem_cons.mp inRange
      obtain ⟨isPut, restPut⟩ := List.forall_mem_cons.mp puts
      have encoded : encodeAll (instruction :: code) ++ rest =
          instruction.encode ++ (encodeAll code ++ rest) := by
        rw [encodeAll, List.flatMap_cons, List.append_assoc]
        rfl
      have length : (encodeAll (instruction :: code)).length =
          instruction.encode.length + (encodeAll code).length := by
        rw [encodeAll, List.flatMap_cons, List.length_append]
        rfl
      have taken := CodePlace.takeInstruction_encode isInRange (encodeAll code ++ rest) position
      rw [encoded, length, List.length_cons, Nat.succ_add, follow_step unlimited taken, compute]
      change EStateM.bind _ _ context = _
      rw [EStateM.bind, followInstruction_puts isPut]
      dsimp only
      cases valueOf rules context stack instruction with
      | error error => rfl
      | ok result =>
          dsimp only
          cases hasAtLeast stackLimit result.2 with
          | true => rfl
          | false =>
              simp only [Bool.false_eq_true, if_false]
              rw [ih restInRange restPut, Nat.add_assoc, Nat.add_assoc, Nat.add_comm 1]

/-! ## The code of a condition -/

def operands : Instruction → Nat
  | .foundAt _ | .not => 1
  | .foundIn _ | .and | .or | .compare _ | .contains => 2
  | _ => 0

/-- An instruction gives a value and leaves alone what lies below its operands, or it fails for one of
three reasons. -/
theorem valueOf_cases (rules : RuleSet) (context : Context) (stack : List Value)
    (instruction : Instruction) :
    (∃ value, valueOf rules context stack instruction =
      .ok (value, stack.drop (operands instruction))) ∨
    (valueOf rules context stack instruction = .error .unreachableData ∧ ¬AddressesFit context) ∨
    (valueOf rules context stack instruction = .error (codeError .stackUnderflow) ∧
      stack.length < operands instruction) ∨
    ∃ index, instruction = .external index ∧ rules.externals[index.toNat]? = none ∧
      valueOf rules context stack instruction =
        .error (codeError (.unknownExternal index.toNat)) := by
  have addresses (property : Int64 → Bool) (string : Nat) (under : List Value) :
      (∃ value, (do
          let found ← anyAddress property (context.matchesOf string)
          .ok (.boolean found, under) : Except Error (Value × List Value)) = .ok (value, under)) ∨
        (do
          let found ← anyAddress property (context.matchesOf string)
          .ok (.boolean found, under) : Except Error (Value × List Value)) = .error .unreachableData ∧
          ¬AddressesFit context := by
    rcases anyAddress_cases property (context.matchesOf string) with decided | ⟨missed, unfit⟩
    · rw [decided]
      exact .inl ⟨_, rfl⟩
    · rw [missed]
      exact .inr ⟨rfl, fun fit => unfit (fit string)⟩
  cases instruction with
  | foundAt string =>
      cases stack with
      | nil => exact .inr (.inr (.inl ⟨rfl, Nat.zero_lt_one⟩))
      | cons address under =>
          cases address with
          | integer address => exact (addresses (· == address) string.toNat under).imp id .inl
          | _ => exact .inl ⟨.undefined, rfl⟩
  | foundIn string =>
      rcases stack with _ | ⟨high, _ | ⟨low, under⟩⟩
      · exact .inr (.inr (.inl ⟨rfl, Nat.zero_lt_two⟩))
      · exact .inr (.inr (.inl ⟨rfl, Nat.one_lt_two⟩))
      · cases low with
        | integer low =>
            cases high with
            | integer high =>
                exact (addresses (fun address => low ≤ address && address ≤ high) string.toNat under).imp
                  id .inl
            | _ => exact .inl ⟨.undefined, rfl⟩
        | _ => exact .inl ⟨.undefined, rfl⟩
  | not =>
      cases stack with
      | nil => exact .inr (.inr (.inl ⟨rfl, Nat.zero_lt_one⟩))
      | cons value under => exact .inl ⟨_, rfl⟩
  | and | or | compare comparison | contains =>
      rcases stack with _ | ⟨right, _ | ⟨left, under⟩⟩
      · exact .inr (.inr (.inl ⟨rfl, Nat.zero_lt_two⟩))
      · exact .inr (.inr (.inl ⟨rfl, Nat.one_lt_two⟩))
      · exact .inl ⟨_, rfl⟩
  | entryPoint =>
      rw [valueOf]
      split
      · exact .inl ⟨_, rfl⟩
      · exact .inl ⟨_, rfl⟩
  | external index =>
      rw [valueOf]
      split
      · exact .inl ⟨_, rfl⟩
      · rename_i missing
        exact .inr (.inr (.inr ⟨index, rfl, missing, rfl⟩))
  | _ => exact .inl ⟨_, rfl⟩

/-- An instruction leaves alone what lies below its operands. -/
theorem valueOf_below {stack below : List Value} {instruction : Instruction} {value : Value}
    (gives : valueOf rules context stack instruction = .ok (value, below)) :
    below = stack.drop (operands instruction) := by
  obtain ⟨other, same⟩ | ⟨failed, -⟩ | ⟨failed, -⟩ | ⟨_, -, -, failed⟩ :=
    valueOf_cases rules context stack instruction
  · exact (Prod.mk.inj (Except.ok.inj (gives.symm.trans same))).2
  · cases failed.symm.trans gives
  · cases failed.symm.trans gives
  · cases failed.symm.trans gives

theorem compute_singleton {stack after : List Value} {instruction : Instruction}
    (computed : compute rules context stack [instruction] = .ok after) :
    ∃ value, after = value :: stack.drop (operands instruction) := by
  rw [compute] at computed
  split at computed
  · cases computed
  · rename_i value below gives
    split at computed
    · cases computed
    · cases computed
      exact ⟨value, congrArg _ (valueOf_below gives)⟩

theorem compute_unary {stack after : List Value} {code : List Instruction} {instruction : Instruction}
    (takesOne : operands instruction = 1)
    (inner : ∀ {stack after}, compute rules context stack code = .ok after →
      ∃ value, after = value :: stack)
    (computed : compute rules context stack (code ++ [instruction]) = .ok after) :
    ∃ value, after = value :: stack := by
  rw [compute_append] at computed
  obtain ⟨middle, isMiddle, last⟩ := bind_eq_ok computed
  obtain ⟨_, rfl⟩ := inner isMiddle
  obtain ⟨value, same⟩ := compute_singleton last
  rw [takesOne] at same
  exact ⟨value, same⟩

theorem compute_binary {stack after : List Value} {code more : List Instruction}
    {instruction : Instruction} (takesTwo : operands instruction = 2)
    (left : ∀ {stack after}, compute rules context stack code = .ok after →
      ∃ value, after = value :: stack)
    (right : ∀ {stack after}, compute rules context stack more = .ok after →
      ∃ value, after = value :: stack)
    (computed : compute rules context stack (code ++ more ++ [instruction]) = .ok after) :
    ∃ value, after = value :: stack := by
  rw [compute_append, compute_append] at computed
  obtain ⟨both, isBoth, last⟩ := bind_eq_ok computed
  obtain ⟨middle, isMiddle, isBoth⟩ := bind_eq_ok isBoth
  obtain ⟨_, rfl⟩ := left isMiddle
  obtain ⟨_, rfl⟩ := right isBoth
  obtain ⟨value, same⟩ := compute_singleton last
  rw [takesTwo] at same
  exact ⟨value, same⟩

theorem compute_ofThem {scope : Scope} {minimum : UInt32} {code : List Instruction}
    (compiled : scope.ofThem minimum = .ok code) {stack after : List Value}
    (computed : compute rules context stack code = .ok after) : ∃ value, after = value :: stack := by
  rw [Scope.ofThem] at compiled
  split at compiled
  · cases compiled
  · cases compiled
    exact compute_singleton computed

theorem compute_code {condition : Condition} {scope : Scope} {code : List Instruction}
    (compiled : condition.code scope = .ok code) {stack after : List Value}
    (computed : compute rules context stack code = .ok after) : ∃ value, after = value :: stack := by
  induction condition generalizing code stack after with
  | truth value | integer value | float value | text value | fileSize | entryPoint =>
      cases compiled
      exact compute_singleton computed
  | found name | count name | rule name | external name =>
      obtain ⟨_, _, same⟩ := bind_eq_ok compiled
      cases same
      exact compute_singleton computed
  | foundAt name address ih =>
      obtain ⟨_, _, rest⟩ := bind_eq_ok compiled
      obtain ⟨_, isCode, same⟩ := bind_eq_ok rest
      cases same
      exact compute_unary rfl (ih isCode) computed
  | foundIn name low high ihLow ihHigh =>
      obtain ⟨_, _, rest⟩ := bind_eq_ok compiled
      obtain ⟨_, isLow, rest⟩ := bind_eq_ok rest
      obtain ⟨_, isHigh, same⟩ := bind_eq_ok rest
      cases same
      exact compute_binary rfl (ihLow isLow) (ihHigh isHigh) computed
  | anyOfThem | allOfThem | ofThem => exact compute_ofThem compiled computed
  | not inner ih =>
      obtain ⟨_, isCode, same⟩ := bind_eq_ok compiled
      cases same
      exact compute_unary rfl (ih isCode) computed
  | and left right ihLeft ihRight | or left right ihLeft ihRight
  | compare comparison left right ihLeft ihRight | contains left right ihLeft ihRight =>
      obtain ⟨_, isLeft, rest⟩ := bind_eq_ok compiled
      obtain ⟨_, isRight, same⟩ := bind_eq_ok rest
      cases same
      exact compute_binary rfl (ihLeft isLeft) (ihRight isRight) computed

/-! ## The code of a rule -/

/-- Code computes one value, whatever is on the stack, and a verdict follows. -/
structure Concludes (rules : RuleSet) (code : List Instruction) (number : UInt32) : Prop where
  inRange : ∀ instruction ∈ code, instruction.InRange rules.strings.size rules.rules.size
  puts : ∀ instruction ∈ code, putsValue instruction = true
  known : number.toNat < rules.rules.size
  one : ∀ {context : Context} {stack after : List Value},
    compute rules context stack code = .ok after → ∃ value, after = value :: stack

/-- The code of a rule gives the verdict on it from an empty stack to an empty stack, or it fails. -/
theorem follow_rule_cases {code : List Instruction} {number : UInt32}
    (concludes : Concludes rules code number) (unlimited : context.timeout = 0)
    (left position : Nat) (rest : List UInt8) (begun : Nat) (timer : Option Nanoseconds) :
    (∃ error, compute rules context [] code = .error error ∧
      follow rules ((code ++ [Instruction.verdict number]).length + left)
        ⟨⟨position, encodeAll (code ++ [.verdict number]) ++ rest⟩, [], begun, timer⟩ context =
          .error error context) ∨
    ∃ value clock times position' begun' timer', compute rules context [] code = .ok [value] ∧
      follow rules ((code ++ [Instruction.verdict number]).length + left)
          ⟨⟨position, encodeAll (code ++ [.verdict number]) ++ rest⟩, [], begun, timer⟩ context =
        follow rules left ⟨⟨position', rest⟩, [], begun', timer'⟩
          { recordVerdict rules number.toNat value context with clock, ruleTimes := times } := by
  rw [List.length_append, List.length_singleton, encodeAll_append, encodeAll_singleton,
    List.append_assoc, Nat.add_assoc, Nat.add_comm 1 left,
    follow_compute unlimited concludes.inRange concludes.puts]
  cases computed : compute rules context [] code with
  | error error => exact .inl ⟨error, rfl, rfl⟩
  | ok after =>
      obtain ⟨value, rfl⟩ := concludes.one computed
      obtain ⟨clock, times, timer', followed⟩ := follow_verdict unlimited concludes.known value []
        left (position + (encodeAll code).length) rest (begun + code.length) timer
      exact .inr ⟨value, clock, times, _, _, timer', rfl, followed⟩

/-- The code of each rule of a compiled rule set gives the verdict on it. -/
theorem concludes_of_compilation {collection : Collection} {compilation : Compilation}
    (gives : collection.Gives compilation rules) (numbered : compilation.Numbered collection.rules)
    (literals : ∀ entry ∈ collection.rules, entry.2.condition.LiteralsFit)
    {code : List Instruction} {number : UInt32}
    (listed : code ++ [.verdict number] ∈ compilation.code.reverse) : Concludes rules code number := by
  obtain ⟨entry, _, scope, own, owner, same, within, compiled, suits⟩ :=
    suits_of_compilation gives numbered literals listed
  obtain ⟨rfl, isVerdict⟩ := List.append_inj' same rfl
  cases isVerdict
  exact ⟨fun other member => (suits other member).inRange, fun other member => (suits other member).puts,
    within, compute_code compiled⟩

end ByteScan.Scan
