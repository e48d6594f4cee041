import ByteScan.Proofs.Regex.Paths

/-!
# What the ways through a program begin with

An expression is compiled in front of a program and leaves the instructions of that program where
they are, which is `compile_extends`. The ways through what it adds can therefore be followed
wherever those instructions stand: `Opens` says that they take one byte of each of some sets before
anything else.
-/

namespace ByteScan.Regex

/-! ## Instructions stay where they are -/

/-- Every instruction of a smaller program stands at its place in a larger one. -/
def Program.Extends (larger smaller : Program) : Prop :=
  ∀ (place : Nat) instruction, smaller.instructions[place]? = some instruction →
    larger.instructions[place]? = some instruction

namespace Program

theorem Extends.refl (program : Program) : program.Extends program :=
  fun _ _ found => found

theorem Extends.trans {larger middle smaller : Program} (outer : larger.Extends middle)
    (inner : middle.Extends smaller) : larger.Extends smaller :=
  fun place instruction found => outer place instruction (inner place instruction found)

theorem Extends.size_le {larger smaller : Program} (extended : larger.Extends smaller) :
    smaller.instructions.size ≤ larger.instructions.size := by
  apply Nat.le_of_not_lt
  intro within
  have found := extended _ _ (Array.getElem?_eq_getElem within)
  rw [Array.getElem?_eq_none (Nat.le_refl _)] at found
  cases found

theorem extends_prepend (program : Program) (instruction : Instruction) :
    (program.prepend instruction).Extends program := by
  intro place actual found
  unfold prepend
  have within : place < program.instructions.size := (Array.getElem?_eq_some_iff.mp found).1
  rw [Array.getElem?_push_lt within]
  rwa [Array.getElem?_eq_getElem within] at found

theorem extends_startAt (program : Program) (start : Nat) :
    (program.startAt start).Extends program :=
  fun _ _ found => found

theorem Extends.replace {larger smaller : Program} (extended : larger.Extends smaller)
    {index : Nat} (added : smaller.instructions.size ≤ index) (instruction : Instruction) :
    (larger.replace index instruction).Extends smaller := by
  intro place actual found
  have within : place < smaller.instructions.size := (Array.getElem?_eq_some_iff.mp found).1
  unfold Program.replace
  rw [Array.getElem?_setIfInBounds_ne (by omega)]
  exact extended place actual found

/-- What is put in front of each program leaves its instructions where they are. -/
def Extending (step : Program → Program) : Prop :=
  ∀ program, (step program).Extends program

end Program

open Program

namespace Expression

variable {step : Program → Program}

theorem times_extends (extending : Extending step) (count : Nat) : Extending (times step count) := by
  induction count with
  | zero => exact Extends.refl
  | succ count ih =>
      intro program
      exact (ih (step program)).trans (extending program)

theorem times_succ (step : Program → Program) (count : Nat) (program : Program) :
    times step (count + 1) program = step (times step count program) := by
  induction count generalizing program with
  | zero => rfl
  | succ count ih => exact ih (step program)

theorem optionalRounds_extends (extending : Extending step) (greedy : Bool) (out count : Nat) :
    Extending (optionalRounds greedy step out count) := by
  apply times_extends
  intro program
  exact (extends_prepend _ _).trans (extending program)

theorem oneOrMore_extends (extending : Extending step) (greedy : Bool) :
    Extending (oneOrMore greedy step) := by
  intro program
  have placed := (extending (program.prepend .fail)).trans (extends_prepend program .fail)
  exact placed.replace (Nat.le_refl _) _

theorem zeroOrMore_extends (extending : Extending step) (greedy consumes : Bool) :
    Extending (zeroOrMore greedy consumes step) := by
  intro program
  cases consumes with
  | false =>
      exact (extends_prepend _ _).trans (oneOrMore_extends extending greedy program)
  | true =>
      have placed := (extending (program.prepend .fail)).trans (extends_prepend program .fail)
      exact placed.replace (Nat.le_refl _) _

theorem roundsBetween_extends (extending : Extending step) (least : Nat) (most : Option Nat)
    (greedy consumes : Bool) : Extending (roundsBetween least most greedy consumes step) := by
  intro program
  cases most with
  | some most =>
      exact (times_extends extending least _).trans
        (optionalRounds_extends extending greedy program.start (most - least) program)
  | none =>
      cases least with
      | zero => exact zeroOrMore_extends extending greedy consumes program
      | succ least =>
          exact (times_extends extending least _).trans
            (oneOrMore_extends extending greedy program)

theorem foldl_extends {add : Program → α → Program}
    (extending : ∀ item program, (add program item).Extends program) (items : List α)
    (program : Program) : (items.foldl add program).Extends program := by
  induction items generalizing program with
  | nil => exact Extends.refl program
  | cons item items ih => exact (ih (add program item)).trans (extending item program)

theorem characters_extends (length : Nat) (runs : List ByteRun) :
    Extending (characters length runs) := by
  induction length generalizing runs with
  | zero => exact Extends.refl
  | succ length ih =>
      intro program
      have withBranch : ∀ (branch : ByteSet × List ByteRun) (placed : Program),
          ((characters length branch.2 (placed.startAt program.start)).prepend
            (.byte branch.1 (characters length branch.2
              (placed.startAt program.start)).start)).Extends placed := by
        intro branch placed
        exact (extends_prepend _ _).trans ((ih branch.2 _).trans (extends_startAt _ _))
      unfold characters
      dsimp only
      split
      · split
        · exact extends_prepend _ _
        · exact Extends.refl program
      · rename_i last others _
        refine (foldl_extends ?_ others _).trans (withBranch last program)
        intro branch placed
        exact (extends_prepend _ _).trans (withBranch branch placed)

theorem choiceOf_extends (out : Nat) {steps : List (Program → Program)}
    (extending : ∀ step ∈ steps, Extending step) : Extending (choiceOf out steps) := by
  induction steps with
  | nil => exact fun program => extends_prepend program .fail
  | cons step steps ih =>
      intro program
      have first := extending step List.mem_cons_self
      cases steps with
      | nil => exact (first _).trans (extends_startAt program out)
      | cons second steps =>
          have rest := ih (fun step listed => extending step (List.mem_cons_of_mem _ listed)) program
          exact (extends_prepend _ _).trans ((first _).trans ((extends_startAt _ _).trans rest))

theorem foldr_extends {steps : List (Program → Program)}
    (extending : ∀ step ∈ steps, Extending step) :
    Extending fun program => steps.foldr (fun step program => step program) program := by
  induction steps with
  | nil => exact Extends.refl
  | cons step steps ih =>
      intro program
      exact (extending step List.mem_cons_self _).trans
        (ih (fun step listed => extending step (List.mem_cons_of_mem _ listed)) program)

mutual

/-- An expression leaves the instructions of the program after it where they are. -/
theorem compile_extends : (expression : Expression) → Extending expression.compile
  | .empty => Extends.refl
  | .set _ => fun program => extends_prepend program _
  | .scalars ranges => characters_extends 4 (byteRuns ranges)
  | .look _ => fun program => extends_prepend program _
  | .sequence parts => foldr_extends (compileEach_extends parts)
  | .choice branches => fun program =>
      choiceOf_extends program.start (compileEach_extends branches) program
  | .repetition least most greedy inner =>
      roundsBetween_extends (compile_extends inner) least most greedy inner.consumes
  | .group inner => compile_extends inner

theorem compileEach_extends : (parts : List Expression) →
    ∀ step ∈ compileEach parts, Extending step
  | [] => nofun
  | part :: parts => fun step listed =>
      (List.mem_cons.mp listed).elim (fun same => same ▸ compile_extends part)
        (compileEach_extends parts step)

end

end Expression

/-! ## The first bytes of a match -/

/-- From a position on, the data has one byte of each of some sets. -/
def StandAt (data : ByteArray) : List ByteSet → Nat → Prop
  | [], _ => True
  | set :: sets, position =>
    (∃ byte, data[position]? = some byte ∧ set.contains byte = true) ∧
      StandAt data sets (position + 1)

/-- Every way from a place to a match takes one byte of each of some sets first. -/
def Begins (instructions : Array Instruction) (place : Nat) (sets : List ByteSet) : Prop :=
  ∀ view stop position, Accepts instructions view stop place position →
    StandAt view.data sets position

theorem begins_nil (instructions : Array Instruction) (place : Nat) :
    Begins instructions place [] :=
  fun _ _ _ _ => trivial

theorem begins_byte {instructions : Array Instruction} {place next : Nat} {set : ByteSet}
    {sets : List ByteSet} (found : instructions[place]? = some (.byte set next))
    (rest : Begins instructions next sets) : Begins instructions place (set :: sets) := by
  intro view stop position accepts
  cases accepts with
  | byte same stands held accepts =>
      rw [found] at same
      cases same
      exact ⟨⟨_, stands, held⟩, rest view stop _ accepts⟩
  | accept same => rw [found] at same; cases same
  | first same _ => rw [found] at same; cases same
  | second same _ => rw [found] at same; cases same
  | look same _ _ => rw [found] at same; cases same

theorem begins_look {instructions : Array Instruction} {place next : Nat} {condition : Look}
    {sets : List ByteSet} (found : instructions[place]? = some (.look condition next))
    (rest : Begins instructions next sets) : Begins instructions place sets := by
  intro view stop position accepts
  cases accepts with
  | look same holds accepts =>
      rw [found] at same
      cases same
      exact rest view stop position accepts
  | accept same => rw [found] at same; cases same
  | byte same _ _ _ => rw [found] at same; cases same
  | first same _ => rw [found] at same; cases same
  | second same _ => rw [found] at same; cases same

/-- Some instructions hold what a larger program adds to a smaller one. -/
def Program.AddedIn (smaller larger : Program) (instructions : Array Instruction) : Prop :=
  ∀ (place : Nat) instruction, smaller.instructions.size ≤ place →
    larger.instructions[place]? = some instruction → instructions[place]? = some instruction

namespace Program

variable {smaller middle larger : Program} {instructions : Array Instruction}

theorem addedIn_self (smaller larger : Program) : smaller.AddedIn larger larger.instructions :=
  fun _ _ _ found => found

theorem AddedIn.last (added : smaller.AddedIn larger instructions)
    (extended : middle.Extends smaller) : middle.AddedIn larger instructions :=
  fun place instruction beyond found =>
    added place instruction (Nat.le_trans extended.size_le beyond) found

theorem AddedIn.first (added : smaller.AddedIn larger instructions)
    (extended : larger.Extends middle) : smaller.AddedIn middle instructions :=
  fun place instruction beyond found =>
    added place instruction beyond (extended place instruction found)

theorem AddedIn.prepended {program : Program} {instruction : Instruction}
    (added : program.AddedIn (program.prepend instruction) instructions) :
    instructions[(program.prepend instruction).start]? = some instruction :=
  added _ _ (Nat.le_refl _) Array.getElem?_push_size

end Program

/-- Wherever what a step adds stands, every way from its start to a match takes one byte of each
of some sets first. -/
def Opens (step : Program → Program) (sets : List ByteSet) : Prop :=
  ∀ program instructions, program.AddedIn (step program) instructions →
    Begins instructions (step program).start sets

namespace Expression

variable {step : Program → Program} {sets : List ByteSet}

theorem times_opens (extending : Extending step) (opens : Opens step sets) {count : Nat}
    (some : 0 < count) : Opens (times step count) sets := by
  intro program instructions added
  obtain ⟨count, rfl⟩ := Nat.exists_eq_succ_of_ne_zero (Nat.ne_of_gt some)
  rw [Nat.succ_eq_add_one, times_succ] at added ⊢
  exact opens _ _ (added.last (times_extends extending count program))

theorem oneOrMore_opens (opens : Opens step sets) (greedy : Bool) :
    Opens (oneOrMore greedy step) sets := by
  intro program instructions added
  refine opens (program.prepend .fail) instructions ?_
  intro place instruction beyond found
  have later : program.instructions.size < place := by
    unfold prepend at beyond
    rw [Array.size_push] at beyond
    exact beyond
  have kept : (oneOrMore greedy step program).instructions[place]? =
      (step (program.prepend .fail)).instructions[place]? :=
    Array.getElem?_setIfInBounds_ne (Nat.ne_of_lt later)
  exact added place instruction (Nat.le_of_lt later) (kept.trans found)

/-- What has to be repeated at least once begins like one round. -/
theorem roundsBetween_opens (extending : Extending step) (opens : Opens step sets) {least : Nat}
    (required : 0 < least) (most : Option Nat) (greedy consumes : Bool) :
    Opens (roundsBetween least most greedy consumes step) sets := by
  intro program instructions added
  cases most with
  | some most =>
      exact times_opens extending opens required _ _
        (added.last (optionalRounds_extends extending greedy program.start _ program))
  | none =>
      obtain ⟨least, rfl⟩ := Nat.exists_eq_succ_of_ne_zero (Nat.ne_of_gt required)
      cases least with
      | zero => exact oneOrMore_opens opens greedy program instructions added
      | succ least =>
          exact times_opens extending opens (Nat.succ_pos least) _ _
            (added.last (oneOrMore_extends extending greedy program))

theorem rounds_opens {inner : Expression} (opens : Opens inner.compile sets) {least : Nat}
    (required : 0 < least) (most : Option Nat) (greedy : Bool) :
    Opens (rounds least most greedy inner).compile sets := by
  have repeated : ∀ least most, 0 < least →
      Opens (if least = 0 ∧ most = some 0 then .empty
        else if least = 1 ∧ most = some 1 then inner
        else .repetition least most greedy inner : Expression).compile sets := by
    intro least most required
    rw [if_neg fun none => absurd none.1 (Nat.ne_of_gt required)]
    split
    · exact opens
    · exact roundsBetween_opens (compile_extends inner) opens required most greedy _
  unfold rounds
  cases inner.isWidthless with
  | true => exact repeated (min least 1) _ (by omega)
  | false => exact repeated least most required

/-! ## Expressions one after another -/

def compileAll (parts : List Expression) (program : Program) : Program :=
  parts.foldr (fun part program => part.compile program) program

theorem compileEach_eq (parts : List Expression) : compileEach parts = parts.map compile := by
  induction parts with
  | nil => rfl
  | cons part parts ih => rw [compileEach, ih, List.map_cons]

theorem compile_sequence (parts : List Expression) :
    (sequence parts).compile = compileAll parts := by
  funext program
  rw [compile, compileEach_eq, List.foldr_map]
  rfl

theorem compile_ofSequence (parts : List Expression) :
    (ofSequence parts).compile = compileAll parts := by
  unfold ofSequence
  split
  · rfl
  · rfl
  · exact compile_sequence parts

theorem compileAll_extends (parts : List Expression) : Extending (compileAll parts) := by
  rw [← compile_sequence]
  exact compile_extends (sequence parts)

theorem compileAll_opens {first : Expression} (opens : Opens first.compile sets)
    (rest : List Expression) : Opens (compileAll (first :: rest)) sets := by
  intro program instructions added
  exact opens _ _ (added.last (compileAll_extends rest program))

theorem set_cons_opens {rest : List Expression} (opens : Opens (compileAll rest) sets)
    (set : ByteSet) : Opens (compileAll (.set set :: rest)) (set :: sets) := by
  intro program instructions added
  have placed := added.last (compileAll_extends rest program)
  refine begins_byte placed.prepended ?_
  exact opens program instructions (added.first (compile_extends (.set set) _))

theorem look_cons_opens {rest : List Expression} (opens : Opens (compileAll rest) sets)
    (condition : Look) : Opens (compileAll (.look condition :: rest)) sets := by
  intro program instructions added
  have placed := added.last (compileAll_extends rest program)
  refine begins_look placed.prepended ?_
  exact opens program instructions (added.first (compile_extends (.look condition) _))

/-- What every way through an expression takes first stands at every match. -/
theorem standAt_of_matchEnd? {expression : Expression} (opens : Opens expression.compile sets)
    {data : ByteArray} {start stop : Nat}
    (found : expression.program.matchEnd? data start = some stop) : StandAt data sets start :=
  opens .accepting expression.program.instructions (addedIn_self _ _) ⟨data, start⟩ stop start
    (accepts_of_matchEnd? found)

end Expression

end ByteScan.Regex
