import ByteScan.Proofs.Condition.Decoding
import ByteScan.Proofs.Success
import ByteScan.Scan.Evaluation

/-!
# Following condition code

Code that only puts values on the stack takes a machine from one stack to another and leaves the
state of the scan alone. `Pushes` says so wherever the code stands; it holds of one instruction and
of code after code.
-/

namespace ByteScan.Scan

variable {rules : RuleSet} {context : Context}

theorem checkDeadline_unlimited (unlimited : context.timeout = 0) :
    Context.checkDeadline context = .ok () context := by
  rw [Context.checkDeadline, if_pos unlimited]

def followTaken (rules : RuleSet) (left : Nat) (machine : MachineState) : ScanM Unit :=
  match machine.place.takeInstruction rules.strings.size rules.rules.size with
  | .error fault => throw (codeError fault)
  | .ok (instruction, place) => do
    match ← followInstruction rules { machine with begun := machine.begun + 1 } instruction place with
    | some machine => follow rules left machine
    | none => pure ()

theorem follow_succ (left : Nat) (machine : MachineState) :
    follow rules (left + 1) machine =
      if (machine.begun + 1) % deadlineInstructions = 0 then
        Context.checkDeadline >>= fun _ => followTaken rules left machine
      else followTaken rules left machine := rfl

/-- Without a time limit the next instruction is followed. -/
theorem follow_step (unlimited : context.timeout = 0) {machine : MachineState}
    {instruction : Instruction} {place : CodePlace}
    (taken : machine.place.takeInstruction rules.strings.size rules.rules.size =
      .ok (instruction, place)) (left : Nat) :
    follow rules (left + 1) machine context =
      (followInstruction rules { machine with begun := machine.begun + 1 } instruction place >>=
        fun next => match next with
          | some machine => follow rules left machine
          | none => pure ()) context := by
  rw [follow]
  simp only [taken]
  split
  · exact bind_of_ok (checkDeadline_unlimited unlimited)
  · rfl

def beginning (context : Context) : ScanM (Option Nanoseconds) :=
  if context.flags.profile then some <$> Context.look else pure none

theorem evaluate_eq (rules : RuleSet) (context : Context) :
    evaluate rules context = (beginning context >>= fun timer =>
      follow rules ((rules.code.drop rules.codeStart).length + 1)
        ⟨⟨rules.codeStart, rules.code.drop rules.codeStart⟩, [], 0, timer⟩) context := by
  refine (bind_of_ok rfl).trans ?_
  rw [beginning]
  cases context.flags.profile with
  | true => rfl
  | false => rfl

theorem follow_fault (unlimited : context.timeout = 0) {machine : MachineState} {fault : CodeFault}
    (taken : machine.place.takeInstruction rules.strings.size rules.rules.size = .error fault)
    (left : Nat) : follow rules (left + 1) machine context = .error (codeError fault) context := by
  rw [follow]
  simp only [taken]
  split
  · exact bind_of_ok (checkDeadline_unlimited unlimited)
  · rfl

theorem hasAtLeast_eq_false {items : List α} {count : Nat} (short : items.length < count) :
    hasAtLeast count items = false := by
  rw [Bool.eq_false_iff, ne_eq, hasAtLeast_iff]
  omega

/-- An instruction that neither ends the code nor gives the verdict on a rule. -/
def putsValue : Instruction → Bool
  | .halt | .verdict _ => false
  | _ => true

theorem followInstruction_puts {instruction : Instruction} (puts : putsValue instruction = true)
    (machine : MachineState) (place : CodePlace) (context : Context) :
    followInstruction rules machine instruction place context =
      match valueOf rules context machine.stack instruction with
      | .error error => .error error context
      | .ok (value, below) =>
        if hasAtLeast stackLimit below then .error (codeError .stackOverflow) context
        else .ok (some { machine with place, stack := value :: below }) context := by
  rw [followInstruction]
  · refine (bind_of_ok rfl).trans ?_
    cases valueOf rules context machine.stack instruction with
    | error error => rfl
    | ok result =>
        simp only [MonadExcept.ofExcept, bind, EStateM.bind, pure, EStateM.pure]
        split
        · rfl
        · rfl
  · intro isHalt
    rw [isHalt] at puts
    cases puts
  · intro number isVerdict
    rw [isVerdict] at puts
    cases puts

theorem followInstruction_push {machine : MachineState} {instruction : Instruction}
    (puts : putsValue instruction = true) {below : List Value} {value : Value}
    (gives : valueOf rules context machine.stack instruction = .ok (value, below))
    (room : below.length < stackLimit) (place : CodePlace) :
    followInstruction rules machine instruction place context =
      .ok (some { machine with place, stack := value :: below }) context := by
  rw [followInstruction_puts puts, gives]
  exact if_neg (Bool.not_eq_true _ ▸ hasAtLeast_eq_false room)

/-- Some instructions take the machine from one stack to another. -/
def Pushes (rules : RuleSet) (context : Context) (instructions : List Instruction)
    (stack after : List Value) : Prop :=
  ∀ left position rest begun timer,
    follow rules (instructions.length + left)
        ⟨⟨position, encodeAll instructions ++ rest⟩, stack, begun, timer⟩ context =
      follow rules left
        ⟨⟨position + (encodeAll instructions).length, rest⟩, after, begun + instructions.length,
          timer⟩ context

theorem encodeAll_append (first second : List Instruction) :
    encodeAll (first ++ second) = encodeAll first ++ encodeAll second := List.flatMap_append

theorem encodeAll_singleton (instruction : Instruction) :
    encodeAll [instruction] = instruction.encode := List.flatMap_singleton ..

theorem Pushes.append {first second : List Instruction} {start middle finish : List Value}
    (early : Pushes rules context first start middle)
    (late : Pushes rules context second middle finish) :
    Pushes rules context (first ++ second) start finish := by
  intro left position rest begun timer
  rw [List.length_append, Nat.add_assoc, encodeAll_append, List.append_assoc, early, late,
    List.length_append, Nat.add_assoc, Nat.add_assoc]

theorem Pushes.single (unlimited : context.timeout = 0) {instruction : Instruction}
    (inRange : instruction.InRange rules.strings.size rules.rules.size)
    (puts : putsValue instruction = true) {stack below : List Value} {value : Value}
    (gives : valueOf rules context stack instruction = .ok (value, below))
    (room : below.length < stackLimit) :
    Pushes rules context [instruction] stack (value :: below) := by
  intro left position rest begun timer
  have taken := CodePlace.takeInstruction_encode inRange rest position
  have followed (place : CodePlace) :
      followInstruction rules ⟨⟨position, instruction.encode ++ rest⟩, stack, begun + 1, timer⟩
        instruction place context = .ok (some ⟨place, value :: below, begun + 1, timer⟩) context :=
    followInstruction_push puts gives room place
  rw [encodeAll_singleton, List.length_singleton, Nat.add_comm 1 left,
    follow_step unlimited taken]
  exact bind_of_ok (followed _)

end ByteScan.Scan
