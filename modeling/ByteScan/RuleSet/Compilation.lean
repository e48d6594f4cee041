import ByteScan.Automaton.Building
import ByteScan.Condition.Code
import ByteScan.Pattern.Atom
import ByteScan.RuleSet.Basic
import ByteScan.RuleSet.Declaration

/-!
# Compiling rule sets

`Collection.compile` numbers namespaces in the order of their first use, rules in the order of their
addition, and strings in the order of their declaration. The first thing that is wrong in that order
is the error.
-/

namespace ByteScan

namespace StringDecl

def compile (decl : StringDecl) (rule : String) (number : Nat) : Except CompileError StringDef :=
  let empty : CompileError := .emptyString rule decl.identifier
  let define (pattern : Pattern decl.modifiers.nocase) : StringDef :=
    ⟨decl.identifier, number, decl.modifiers, pattern⟩
  match decl.pattern with
  | .text source =>
    if source.isEmpty then .error empty else .ok (define (.text source.toUTF8.toList))
  | .hex source =>
    match HexPattern.ofText source with
    | .error fault => .error (.invalidHex rule decl.identifier fault)
    | .ok [] => .error empty
    | .ok bytes => .ok (define (.hex bytes))
  | .regex source =>
    if source.isEmpty then .error empty
    else
      match Regex.ofSource source decl.modifiers.nocase with
      | .error fault => .error (.invalidRegex rule decl.identifier fault)
      | .ok regex => .ok (define (.regex regex))

end StringDecl

structure Compilation where
  spaces : Array String
  rules : Array Rule
  strings : Array StringDef
  code : List (List Instruction)
  externals : List String

namespace Compilation

/-- The number of a namespace, which is a new one if the name has not been used. -/
def enter (compilation : Compilation) (space : String) : Nat × Compilation :=
  match compilation.spaces.idxOf? space with
  | some number => (number, compilation)
  | none =>
    (compilation.spaces.size, { compilation with spaces := compilation.spaces.push space })

def ruleNumber? (compilation : Compilation) (space : Nat) (name : String) : Option Nat :=
  compilation.rules.findIdx? fun rule => rule.space == space && rule.identifier == name

/-- Adds the strings of a rule; `own` are those added before, last first. -/
def addStrings (rule : String) (number : Nat) :
    List (String × Nat) → Compilation → List StringDecl →
      Except CompileError (List (String × Nat) × Compilation)
  | own, compilation, [] => .ok (own.reverse, compilation)
  | own, compilation, decl :: decls =>
    if (own.lookup decl.identifier).isSome then
      .error (.duplicateString rule decl.identifier)
    else
      match decl.compile rule number with
      | .error error => .error error
      | .ok string =>
        addStrings rule number ((decl.identifier, compilation.strings.size) :: own)
          { compilation with strings := compilation.strings.push string } decls

def addRule (compilation : Compilation) (space : String) (decl : RuleDecl) :
    Except CompileError Compilation := do
  let (spaceNumber, compilation) := compilation.enter space
  if (compilation.ruleNumber? spaceNumber decl.name).isSome then throw (.duplicateRule decl.name)
  let number := compilation.rules.size
  let (strings, compilation) ← addStrings decl.name number [] compilation decl.strings
  let scope : Scope := {
    rule := decl.name
    number
    strings
    earlierRule? := compilation.ruleNumber? spaceNumber
    externals := compilation.externals }
  let code ← decl.condition.ruleCode scope
  let rule : Rule :=
    ⟨decl.name, spaceNumber, decl.isPrivate, decl.isGlobal, strings.map Prod.snd, decl.tags⟩
  return { compilation with
    rules := compilation.rules.push rule
    code := code :: compilation.code }

def addRules : Compilation → List (String × RuleDecl) → Except CompileError Compilation
  | compilation, [] => .ok compilation
  | compilation, (space, decl) :: decls =>
    match compilation.addRule space decl with
    | .ok compilation => addRules compilation decls
    | .error error => .error error

end Compilation

def signsOf (strings : List StringDef) : List Sign :=
  strings.zipIdx.flatMap fun (string, number) =>
    (Atom.ofString string).map fun atom => ⟨atom.bytes, atom.backtrack, number⟩

def firstRepeated? (seen : List String) : List String → Option String
  | [] => none
  | name :: names => if seen.contains name then some name else firstRepeated? (name :: seen) names

namespace Collection

def buildError : Automaton.BuildFault → Error
  | .tooLarge => .insufficientMemory
  | .tables fault => .corrupt (.tables fault)

def compile (collection : Collection) : Except CompileError RuleSet := do
  let names := collection.externals.map External.identifier
  if let some name := firstRepeated? [] names then throw (.duplicateExternal name)
  let compilation ← Compilation.addRules ⟨#[], #[], #[], [], names⟩ collection.rules
  match Automaton.ofSigns (signsOf compilation.strings.toList) compilation.strings.size with
  | .error fault => throw (.rules (buildError fault))
  | .ok automaton =>
    return {
      spaces := compilation.spaces
      rules := compilation.rules
      strings := compilation.strings
      externals := collection.externals
      automaton
      code := encodeAll (compilation.code.reverse.flatten ++ [.halt])
      codeStart := 0 }

end Collection

end ByteScan
