import ByteScan.Proofs.Scan.Computing
import ByteScan.Proofs.Scan.Matches

/-!
# How conditions fare

The code of a condition computes its value if the stack has room for all that it needs, and overflows
the stack if not. Nothing else can go wrong with compiled code, except that a match may lie beyond all
addresses. `Fares` says so of one condition, and `evaluate_fares` of all conditions of a rule set.
-/

namespace ByteScan.Scan

variable {rules : RuleSet} {context : Context}

/-- Code that puts one value on the stack and needs room for so many while it computes it. -/
inductive Fares (rules : RuleSet) (context : Context) (need : Nat) (stack : List Value)
    (code : List Instruction) : Prop
  | fits (value : Value) (computed : compute rules context stack code = .ok (value :: stack))
      (room : stack.length + need ≤ stackLimit)
  | overflows (computed : compute rules context stack code = .error (codeError .stackOverflow))
      (full : stackLimit < stack.length + need)
  | misses (computed : compute rules context stack code = .error .unreachableData)
      (beyond : ¬AddressesFit context)

def Knows (rules : RuleSet) : Instruction → Prop
  | .external index => index.toNat < rules.externals.length
  | _ => True

theorem compute_append_ok {stack middle : List Value} {code : List Instruction}
    (computed : compute rules context stack code = .ok middle) (more : List Instruction) :
    compute rules context stack (code ++ more) = compute rules context middle more := by
  rw [compute_append, computed]
  rfl

theorem compute_append_error {stack : List Value} {code : List Instruction} {error : Error}
    (computed : compute rules context stack code = .error error) (more : List Instruction) :
    compute rules context stack (code ++ more) = .error error := by
  rw [compute_append, computed]
  rfl

section

variable {instruction : Instruction} (known : Knows rules instruction)
include known

theorem valueOf_known (context : Context) (stack : List Value)
    (enough : operands instruction ≤ stack.length) :
    (∃ value, valueOf rules context stack instruction =
      .ok (value, stack.drop (operands instruction))) ∨
    (valueOf rules context stack instruction = .error .unreachableData ∧ ¬AddressesFit context) := by
  obtain given | missed | ⟨-, short⟩ | ⟨index, rfl, missing, -⟩ :=
    valueOf_cases rules context stack instruction
  · exact .inl given
  · exact .inr missed
  · exact absurd enough (Nat.not_le.mpr short)
  · exact absurd known (Nat.not_lt.mpr (List.getElem?_eq_none_iff.mp missing))

theorem compute_known (context : Context) (stack : List Value)
    (enough : operands instruction ≤ stack.length) :
    (∃ value, compute rules context stack [instruction] =
        .ok (value :: stack.drop (operands instruction)) ∧
      stack.length < stackLimit + operands instruction) ∨
    (compute rules context stack [instruction] = .error (codeError .stackOverflow) ∧
      stackLimit + operands instruction ≤ stack.length) ∨
    (compute rules context stack [instruction] = .error .unreachableData ∧
      ¬AddressesFit context) := by
  obtain ⟨value, given⟩ | ⟨missed, beyond⟩ := valueOf_known known context stack enough
  · have length : (stack.drop (operands instruction)).length =
        stack.length - operands instruction := List.length_drop
    rw [compute, given]
    dsimp only
    split
    · rename_i isFull
      rw [hasAtLeast_iff, length] at isFull
      exact .inr (.inl ⟨rfl, by omega⟩)
    · rename_i notFull
      rw [hasAtLeast_iff, length] at notFull
      exact .inl ⟨value, rfl, by omega⟩
  · rw [compute, missed]
    exact .inr (.inr ⟨rfl, beyond⟩)

namespace Fares

theorem single (nullary : operands instruction = 0) (stack : List Value) :
    Fares rules context 1 stack [instruction] := by
  obtain ⟨value, computed, room⟩ | ⟨computed, full⟩ | ⟨computed, beyond⟩ :=
    compute_known known context stack (nullary ▸ Nat.zero_le stack.length)
  · rw [nullary] at computed room
    exact .fits value computed room
  · rw [nullary] at full
    exact .overflows computed (Nat.lt_succ_of_le full)
  · exact .misses computed beyond

theorem unary {need : Nat} {stack : List Value} {code : List Instruction}
    (takesOne : operands instruction = 1) (needed : 0 < need)
    (inner : Fares rules context need stack code) :
    Fares rules context need stack (code ++ [instruction]) := by
  cases inner with
  | overflows computed full => exact .overflows (compute_append_error computed _) full
  | misses computed beyond => exact .misses (compute_append_error computed _) beyond
  | fits value computed room =>
      have whole := compute_append_ok computed [instruction]
      obtain ⟨result, last, -⟩ | ⟨-, full⟩ | ⟨last, beyond⟩ :=
        compute_known known context (value :: stack) (takesOne ▸ Nat.le_add_left 1 _)
      · rw [takesOne] at last
        exact .fits result (whole.trans last) room
      · rw [takesOne, List.length_cons] at full
        omega
      · exact .misses (whole.trans last) beyond

theorem binary {left right : Nat} {stack : List Value} {code more : List Instruction}
    (takesTwo : operands instruction = 2) (needed : 0 < right)
    (first : Fares rules context left stack code)
    (second : ∀ value, Fares rules context right (value :: stack) more) :
    Fares rules context (max left (right + 1)) stack (code ++ more ++ [instruction]) := by
  rw [List.append_assoc]
  -- the first value stays on the stack while the second operand is computed
  cases first with
  | overflows computed full => exact .overflows (compute_append_error computed _) (by omega)
  | misses computed beyond => exact .misses (compute_append_error computed _) beyond
  | fits value computed room =>
      have whole := compute_append_ok computed (more ++ [instruction])
      cases second value with
      | overflows computed' full =>
          rw [List.length_cons] at full
          exact .overflows (whole.trans (compute_append_error computed' _)) (by omega)
      | misses computed' beyond => exact .misses (whole.trans (compute_append_error computed' _)) beyond
      | fits value' computed' room' =>
          rw [List.length_cons] at room'
          have whole := whole.trans (compute_append_ok computed' [instruction])
          obtain ⟨result, last, -⟩ | ⟨-, full⟩ | ⟨last, beyond⟩ :=
            compute_known known context (value' :: value :: stack) (takesTwo ▸ Nat.le_add_left 2 _)
          · rw [takesTwo] at last
            exact .fits result (whole.trans last) (by omega)
          · rw [takesTwo, List.length_cons, List.length_cons] at full
            omega
          · exact .misses (whole.trans last) beyond

end Fares

end

/-- The code of a condition needs as much room as the condition does. -/
theorem fares_code {condition : Condition} {scope : Scope} {code : List Instruction}
    (named : scope.externals.length ≤ rules.externals.length)
    (compiled : condition.code scope = .ok code) (stack : List Value) :
    Fares rules context condition.stackNeed stack code := by
  induction condition generalizing code stack with
  | truth value | integer value | float value | text value | fileSize | entryPoint =>
      cases compiled
      exact .single (by trivial) rfl stack
  | found name | count name | rule name =>
      obtain ⟨_, _, same⟩ := bind_eq_ok compiled
      cases same
      exact .single (by trivial) rfl stack
  | external name =>
      obtain ⟨index, isIndex, same⟩ := bind_eq_ok compiled
      cases same
      refine .single ?_ rfl stack
      rw [Scope.external] at isIndex
      split at isIndex
      · rename_i position found
        cases isIndex
        obtain ⟨within, _⟩ := List.findIdx?_eq_some_iff_getElem.mp found
        exact Nat.lt_of_le_of_lt (Nat.mod_le _ _) (Nat.lt_of_lt_of_le within named)
      · cases isIndex
  | anyOfThem | allOfThem | ofThem minimum =>
      change scope.ofThem _ = .ok code at compiled
      rw [Scope.ofThem] at compiled
      split at compiled
      · cases compiled
      · cases compiled
        exact .single (by trivial) rfl stack
  | foundAt name address ih =>
      obtain ⟨_, _, rest⟩ := bind_eq_ok compiled
      obtain ⟨_, isCode, same⟩ := bind_eq_ok rest
      cases same
      exact .unary (by trivial) rfl address.stackNeed_pos (ih isCode stack)
  | not inner ih =>
      obtain ⟨_, isCode, same⟩ := bind_eq_ok compiled
      cases same
      exact .unary (by trivial) rfl inner.stackNeed_pos (ih isCode stack)
  | foundIn name low high ihLow ihHigh =>
      obtain ⟨_, _, rest⟩ := bind_eq_ok compiled
      obtain ⟨_, isLow, rest⟩ := bind_eq_ok rest
      obtain ⟨_, isHigh, same⟩ := bind_eq_ok rest
      cases same
      exact .binary (by trivial) rfl high.stackNeed_pos (ihLow isLow stack) fun _ => ihHigh isHigh _
  | and left right ihLeft ihRight | or left right ihLeft ihRight
  | compare comparison left right ihLeft ihRight | contains left right ihLeft ihRight =>
      obtain ⟨_, isLeft, rest⟩ := bind_eq_ok compiled
      obtain ⟨_, isRight, same⟩ := bind_eq_ok rest
      cases same
      exact .binary (by trivial) rfl right.stackNeed_pos (ihLeft isLeft stack) fun _ => ihRight isRight _

/-! ## The code of all rules -/

/-- The code of a rule ends with the verdict, and before it the condition fares as its need says. -/
def CodeOf (rules : RuleSet) (entry : String × RuleDecl) (instructions : List Instruction) : Prop :=
  ∃ code number, instructions = code ++ [.verdict number] ∧ Concludes rules code number ∧
    ∀ context, Fares rules context entry.2.condition.stackNeed [] code

/-- No condition needs more room than there is. -/
def Roomy (entries : List (String × RuleDecl)) : Prop :=
  ∀ entry ∈ entries, entry.2.condition.stackNeed ≤ stackLimit

/-- Why the conditions of some rules cannot be evaluated: the stack overflows, which it does only if
a condition needs too much, or a match lies beyond all addresses. -/
def Spoils (entries : List (String × RuleDecl)) (context : Context) (error : Error) : Prop :=
  (error = codeError .stackOverflow ∧ ¬Roomy entries) ∨
    (error = .unreachableData ∧ ¬AddressesFit context)

theorem roomy_cons {entry : String × RuleDecl} {entries : List (String × RuleDecl)} :
    Roomy (entry :: entries) ↔ entry.2.condition.stackNeed ≤ stackLimit ∧ Roomy entries :=
  List.forall_mem_cons

theorem Spoils.cons {entries : List (String × RuleDecl)} {error : Error}
    (spoils : Spoils entries context error) (entry : String × RuleDecl) :
    Spoils (entry :: entries) context error :=
  spoils.imp_left fun overflows => ⟨overflows.1, fun roomy => overflows.2 (roomy_cons.mp roomy).2⟩

theorem addressesFit_recordVerdict {number : Nat} {value : Value} {clock : Clock}
    {times : Array Nanoseconds} :
    AddressesFit { recordVerdict rules number value context with clock, ruleTimes := times } ↔
      AddressesFit context := by
  rw [recordVerdict_eq]
  rfl

/-- The code of some rules comes to its end if all their conditions have the room that they need. -/
theorem follow_fares {entries : List (String × RuleDecl)} {codes : List (List Instruction)}
    (each : List.Forall₂ (CodeOf rules) entries codes) (unlimited : context.timeout = 0)
    (left position begun : Nat) (timer : Option Nanoseconds) :
    Outcome (fun _ _ => Roomy entries) (fun error _ => Spoils entries context error)
      (follow rules (codes.flatten.length + (left + 1))
        ⟨⟨position, encodeAll (codes.flatten ++ [.halt])⟩, [], begun, timer⟩ context) := by
  induction each generalizing context position begun timer with
  | nil =>
      rw [List.flatten_nil, List.length_nil, Nat.zero_add, follow_step unlimited rfl]
      exact List.forall_mem_nil _
  | @cons entry _ entries codes isCode _ ih =>
      obtain ⟨code, number, rfl, concludes, fares⟩ := isCode
      rw [List.flatten_cons, List.length_append, Nat.add_assoc, List.append_assoc, encodeAll_append]
      obtain ⟨error, failed, followed⟩ | ⟨value, clock, times, _, _, _, ended, followed⟩ :=
        follow_rule_cases concludes unlimited (codes.flatten.length + (left + 1)) position
          (encodeAll (codes.flatten ++ [.halt])) begun timer
      · rw [followed]
        cases fares context with
        | fits _ computed => cases failed.symm.trans computed
        | overflows computed full =>
            cases failed.symm.trans computed
            rw [List.length_nil, Nat.zero_add] at full
            exact .inl ⟨rfl, fun roomy => Nat.not_le.mpr full (roomy_cons.mp roomy).1⟩
        | misses computed beyond =>
            cases failed.symm.trans computed
            exact .inr ⟨rfl, beyond⟩
      · have room : entry.2.condition.stackNeed ≤ stackLimit := by
          cases fares context with
          | fits _ _ room => rwa [List.length_nil, Nat.zero_add] at room
          | overflows computed => cases ended.symm.trans computed
          | misses computed => cases ended.symm.trans computed
        rw [followed]
        refine (ih (by rw [recordVerdict_eq]; exact unlimited) _ _ _).imp ?_ ?_
        · exact fun _ _ roomy => roomy_cons.mpr ⟨room, roomy⟩
        · intro error _ spoils
          rw [Spoils, addressesFit_recordVerdict] at spoils
          exact Spoils.cons spoils entry

section

variable {collection : Collection} {compilation : Compilation}
  (gives : collection.Gives compilation rules) (numbered : compilation.Numbered collection.rules)
  (named : compilation.externals.length ≤ rules.externals.length)
  (literals : ∀ entry ∈ collection.rules, entry.2.condition.LiteralsFit)
include gives numbered named literals

theorem codeOf_of_compilation :
    List.Forall₂ (CodeOf rules) collection.rules compilation.code.reverse := by
  refine List.forall₂_iff_get.mpr ⟨by rw [List.length_reverse, numbered.codes], ?_⟩
  intro number within inCode
  obtain ⟨rule, scope, own, declares⟩ :=
    numbered.each number _ _ (List.getElem?_eq_getElem within)
  obtain rfl : own = compilation.code.reverse.get ⟨number, inCode⟩ :=
    (List.getElem?_eq_some_iff.mp declares.coded).2.symm
  obtain ⟨code, isCode, same⟩ := bind_eq_ok declares.compiled
  have whole := Except.ok.inj same
  have listed : code ++ [.verdict (UInt32.ofNat scope.number)] ∈ compilation.code.reverse :=
    whole ▸ List.get_mem _ _
  exact ⟨code, _, whole.symm, concludes_of_compilation gives numbered literals listed,
    fun context => fares_code (declares.sameExternals ▸ named) isCode []⟩

/-- Without a time limit, the conditions of a compiled rule set are evaluated if and only if the stack
has room for each of them, unless a match lies beyond all addresses. -/
theorem evaluate_fares (unlimited : context.timeout = 0) :
    Outcome (fun _ _ => Roomy collection.rules) (fun error _ => Spoils collection.rules context error)
      (evaluate rules context) := by
  obtain ⟨left, timer, clock, evaluated⟩ := exists_evaluate_eq gives context
  have unlimited' : { context with clock }.timeout = 0 := unlimited
  rw [evaluated]
  exact follow_fares (codeOf_of_compilation gives numbered named literals) unlimited' left 0 0 timer

end

end ByteScan.Scan
