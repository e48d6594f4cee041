import ByteScan.Regex.Expression

/-!
# Programs of regular expressions

An expression is turned into instructions that a matcher follows. `compile` adds the instructions
of an expression in front of the instruction that goes on after it, so that every instruction names
its successors. The place of an instruction is its index, and the first of two successors is the
preferred one.
-/

namespace ByteScan.Regex

inductive Instruction where
  | accept
  | fail
  | byte (set : ByteSet) (next : Nat)
  | split (first second : Nat)
  | look (condition : Look) (next : Nat)
  deriving DecidableEq, Repr, Inhabited

structure Program where
  instructions : Array Instruction
  start : Nat
  deriving DecidableEq, Repr

namespace Program

def prepend (program : Program) (instruction : Instruction) : Program :=
  let place := program.instructions.size
  ⟨program.instructions.push instruction, place⟩

def startAt (program : Program) (start : Nat) : Program := { program with start }

def replace (program : Program) (index : Nat) (instruction : Instruction) : Program :=
  { program with instructions := program.instructions.setIfInBounds index instruction }

/-- A choice between two places; a repetition that is not greedy prefers the way out. -/
def choose (greedy : Bool) (inner out : Nat) : Instruction :=
  if greedy then .split inner out else .split out inner

def accepting : Program := ⟨#[.accept], 0⟩

end Program

namespace Expression

def times (step : Program → Program) : Nat → Program → Program
  | 0, program => program
  | count + 1, program => times step count (step program)

/-- Rounds each of which may be left out, together with those after it; every one of them that is
left out goes on at `out`. -/
def optionalRounds (greedy : Bool) (step : Program → Program) (out : Nat) (count : Nat) :
    Program → Program :=
  times (fun program =>
    let program := step program
    program.prepend (Program.choose greedy program.start out)) count

def oneOrMore (greedy : Bool) (step : Program → Program) (program : Program) : Program :=
  let out := program.start
  let program := program.prepend .fail
  let loop := program.start
  let program := step program
  program.replace loop (Program.choose greedy program.start out)

/-- Any number of rounds. Where a round may be empty, the way out before the first round is kept
apart from the one after a round, so that an empty round does not come before the way out. -/
def zeroOrMore (greedy consumes : Bool) (step : Program → Program) (program : Program) : Program :=
  let out := program.start
  if consumes then
    let program := program.prepend .fail
    let loop := program.start
    let program := step program
    (program.replace loop (Program.choose greedy program.start out)).startAt loop
  else
    let program := oneOrMore greedy step program
    program.prepend (Program.choose greedy program.start out)

def roundsBetween (least : Nat) (most : Option Nat) (greedy consumes : Bool)
    (step : Program → Program) (program : Program) : Program :=
  match most with
  | some most =>
    times step least (optionalRounds greedy step program.start (most - least) program)
  | none =>
    match least with
    | 0 => zeroOrMore greedy consumes step program
    | least + 1 => times step least (oneOrMore greedy step program)

/-- Runs of forms that begin with the same range of bytes, under that range and without it. -/
def headed : List ByteRun → Option ((UInt8 × UInt8) × List ByteRun)
  | (head :: tail) :: runs => some (head, tail :: runs.map List.tail)
  | _ => none

/-- What follows a byte of each of some sets. Sets before the same rest are joined. -/
def joinHeads (branches : List ((UInt8 × UInt8) × List ByteRun)) :
    List (ByteSet × List ByteRun) :=
  branches.foldr (fun (head, rest) joined =>
    let set := ByteSet.range head.1 head.2
    match joined.span fun branch => branch.2 != rest with
    | (others, (more, _) :: later) => (set.union more, rest) :: others ++ later
    | (_, []) => (set, rest) :: joined) []

/-- Puts the forms of characters in front of a program. The runs are of at most the given length,
and no byte can follow two of the branches that are made of them. -/
def characters : Nat → List ByteRun → Program → Program
  | 0, _, program => program
  | length + 1, runs, program =>
    let out := program.start
    let groups := runs.splitBy fun first second => first.head? == second.head?
    let branches := joinHeads (groups.filterMap headed)
    let withBranch (branch : ByteSet × List ByteRun) (program : Program) : Program :=
      let program := characters length branch.2 (program.startAt out)
      program.prepend (.byte branch.1 program.start)
    match branches.reverse with
    | [] => if runs.isEmpty then program.prepend .fail else program
    | last :: others =>
      others.foldl (fun program branch =>
        let other := program.start
        let program := withBranch branch program
        program.prepend (.split program.start other)) (withBranch last program)

/-- Puts a choice in front of a program. Each step puts one branch in front, which goes on at
`out`. -/
def choiceOf (out : Nat) : List (Program → Program) → Program → Program
  | [], program => program.prepend .fail
  | [step], program => step (program.startAt out)
  | step :: steps, program =>
    let program := choiceOf out steps program
    let other := program.start
    let program := step (program.startAt out)
    program.prepend (.split program.start other)

mutual

/-- Puts an expression in front of a program. -/
def compile : Expression → Program → Program
  | .empty, program => program
  | .set bytes, program => program.prepend (.byte bytes program.start)
  | .scalars ranges, program => characters 4 (byteRuns ranges) program
  | .look condition, program => program.prepend (.look condition program.start)
  | .sequence parts, program => (compileEach parts).foldr (fun step program => step program) program
  | .choice branches, program => choiceOf program.start (compileEach branches) program
  | .repetition least most greedy inner, program =>
    roundsBetween least most greedy inner.consumes inner.compile program
  | .group inner, program => inner.compile program

def compileEach : List Expression → List (Program → Program)
  | [] => []
  | part :: parts => part.compile :: compileEach parts

end

def program (expression : Expression) : Program := expression.compile .accepting

end Expression

end ByteScan.Regex
