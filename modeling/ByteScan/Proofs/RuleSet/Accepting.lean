import ByteScan.Proofs.RuleSet.Numbering
import ByteScan.Proofs.Success

/-!
# What is accepted

A condition compiles where all that it speaks of is known, a declared string where its pattern is
one, and a rule where its name, its strings and its condition are in order.
-/

namespace ByteScan

theorem bind_ok_iff {action : Except ε α} {next : α → Except ε β} :
    (∃ result, action >>= next = .ok result) ↔
      ∃ value, action = .ok value ∧ ∃ result, next value = .ok result := by
  constructor
  · rintro ⟨result, succeeds⟩
    obtain ⟨value, first, second⟩ := bind_eq_ok succeeds
    exact ⟨value, first, result, second⟩
  · rintro ⟨value, rfl, second⟩
    exact second

/-! ## Conditions -/

inductive Reference where
  | string (name : String)
  | rule (name : String)
  | external (name : String)
  /-- All strings of the rule. -/
  | them
  deriving DecidableEq, Repr

def Condition.references : Condition → List Reference
  | .truth _ | .integer _ | .float _ | .text _ | .fileSize | .entryPoint => []
  | .found name | .count name => [.string name]
  | .foundAt name address => .string name :: address.references
  | .foundIn name low high => .string name :: (low.references ++ high.references)
  | .anyOfThem | .allOfThem | .ofThem _ => [.them]
  | .rule name => [.rule name]
  | .external name => [.external name]
  | .not inner => inner.references
  | .and left right | .or left right | .compare _ left right | .contains left right =>
    left.references ++ right.references

namespace Scope

def Knows (scope : Scope) : Reference → Prop
  | .string name => (scope.strings.lookup name).isSome
  | .rule name => (scope.earlierRule? name).isSome
  | .external name => name ∈ scope.externals
  | .them => scope.strings ≠ []

variable (scope : Scope) (name : String)

theorem string_ok_iff :
    (∃ number, scope.string name = .ok number) ↔ scope.Knows (.string name) := by
  rw [string, Knows]
  cases scope.strings.lookup name <;> simp

theorem earlierRule_ok_iff :
    (∃ number, scope.earlierRule name = .ok number) ↔ scope.Knows (.rule name) := by
  rw [earlierRule, Knows]
  cases scope.earlierRule? name <;> simp

theorem external_ok_iff :
    (∃ index, scope.external name = .ok index) ↔ scope.Knows (.external name) := by
  have isFound : (scope.externals.findIdx? (· == name)).isSome = true ↔ name ∈ scope.externals := by
    simp
  rw [external, Knows, ← isFound]
  cases scope.externals.findIdx? (· == name) <;> simp

theorem ofThem_ok_iff (minimum : UInt32) :
    (∃ instructions, scope.ofThem minimum = .ok instructions) ↔ scope.Knows .them := by
  rw [ofThem, Knows]
  cases scope.strings <;> simp

end Scope

/-- A condition compiles exactly where all that it speaks of is known. -/
theorem Condition.code_ok_iff (scope : Scope) (condition : Condition) :
    (∃ instructions, condition.code scope = .ok instructions) ↔
      ∀ reference ∈ condition.references, scope.Knows reference := by
  induction condition with
  | truth | integer | float | text | fileSize | entryPoint => simp [code, references]
  | found | count => simp [code, references, bind_ok_iff, ← Scope.string_ok_iff]
  | foundAt name address ih =>
      simp [code, references, bind_ok_iff, ← Scope.string_ok_iff, ← ih]
  | foundIn name low high lower higher =>
      simp only [references, List.forall_mem_cons, List.forall_mem_append, ← lower, ← higher,
        ← Scope.string_ok_iff]
      simp [code, bind_ok_iff]
  | anyOfThem | allOfThem | ofThem => simp [code, references, Scope.ofThem_ok_iff]
  | rule name => simp [code, references, bind_ok_iff, ← Scope.earlierRule_ok_iff]
  | external name => simp [code, references, bind_ok_iff, ← Scope.external_ok_iff]
  | not inner ih => simp [code, references, bind_ok_iff, ← ih]
  | and left right first second | or left right first second | compare _ left right first second
  | contains left right first second =>
      simp only [references, List.forall_mem_append, ← first, ← second]
      simp [code, bind_ok_iff]

theorem Condition.ruleCode_ok_iff (scope : Scope) (condition : Condition) :
    (∃ instructions, condition.ruleCode scope = .ok instructions) ↔
      ∀ reference ∈ condition.references, scope.Knows reference := by
  rw [← code_ok_iff, ruleCode, bind_ok_iff]
  simp

/-! ## Strings -/

namespace StringDecl

/-- The pattern of a string is one, and not empty. -/
def Valid (decl : StringDecl) : Prop :=
  match decl.pattern with
  | .text source => source ≠ ""
  | .hex source => ∃ bytes, HexPattern.ofText source = .ok bytes ∧ bytes ≠ []
  | .regex source =>
    source ≠ "" ∧ ∃ program, Regex.compile source decl.modifiers.nocase = .ok program

theorem ofSource_ok_iff {source : String} {caseless : Bool} :
    (∃ regex, Regex.ofSource source caseless = .ok regex) ↔
      ∃ program, Regex.compile source caseless = .ok program := by
  rw [Regex.ofSource]
  split <;> rename_i same <;> simp [same]

theorem compile_ok_iff (decl : StringDecl) (rule : String) (number : Nat) :
    (∃ string, decl.compile rule number = .ok string) ↔ decl.Valid := by
  obtain ⟨identifier, pattern, modifiers⟩ := decl
  cases pattern with
  | text source =>
      simp only [compile, Valid]
      by_cases empty : source = "" <;> simp [empty]
  | hex source =>
      simp only [compile, Valid]
      cases HexPattern.ofText source with
      | error fault => simp
      | ok bytes => cases bytes <;> simp
  | regex source =>
      simp only [compile, Valid, ← ofSource_ok_iff]
      by_cases empty : source = ""
      · simp [empty]
      · cases Regex.ofSource source modifiers.nocase <;> simp [empty]

end StringDecl

namespace Compilation

theorem isSome_lookup_iff {entries : List (String × Nat)} {name : String} :
    (entries.lookup name).isSome = true ↔ name ∈ entries.map Prod.fst := by
  simp only [List.lookup_isSome_iff, List.mem_map, beq_iff_eq, @eq_comm _ name]

theorem addStrings_lists {rule : String} {number : Nat} {decls : List StringDecl}
    {own strings : List (String × Nat)} {compilation after : Compilation}
    (added : addStrings rule number own compilation decls = .ok (strings, after)) :
    strings = own.reverse ++
        (decls.map StringDecl.identifier).zipIdx compilation.strings.size ∧
      ∃ more, after.strings.toList = compilation.strings.toList ++ more ∧
        List.Forall₂ (fun decl string => decl.compile rule number = .ok string) decls more := by
  induction decls generalizing own compilation with
  | nil =>
      cases added
      exact ⟨by simp, [], by simp, .nil⟩
  | cons decl decls ih =>
      rw [addStrings] at added
      split at added
      · cases added
      · split at added
        · cases added
        · rename_i string compiled
          obtain ⟨named, more, listed, each⟩ := ih added
          refine ⟨?_, string :: more, ?_, .cons compiled each⟩
          · rw [named]
            simp
          · rw [listed]
            simp

theorem addStrings_ok_iff {rule : String} {number : Nat} {decls : List StringDecl}
    {own : List (String × Nat)} {compilation : Compilation} :
    (∃ result, addStrings rule number own compilation decls = .ok result) ↔
      (decls.map StringDecl.identifier).Nodup ∧
        (∀ decl ∈ decls, decl.identifier ∉ own.map Prod.fst) ∧ ∀ decl ∈ decls, decl.Valid := by
  induction decls generalizing own compilation with
  | nil => simp [addStrings]
  | cons decl decls ih =>
      rw [addStrings]
      simp only [isSome_lookup_iff, List.map_cons, List.nodup_cons, List.forall_mem_cons,
        ← decl.compile_ok_iff rule number]
      by_cases repeated : decl.identifier ∈ own.map Prod.fst
      · simp [repeated]
      · rw [if_neg repeated]
        cases decl.compile rule number with
        | error error => simp
        | ok string =>
            simp only [ih]
            simp [repeated]
            grind

end Compilation

/-! ## Rules -/

def ruleNames (entries : List (String × RuleDecl)) : List (String × String) :=
  entries.map fun entry => (entry.1, entry.2.name)

namespace RuleDecl

/-- What the condition of a rule may speak of: strings of its own, external variables, and rules that
were added earlier to its namespace. -/
def MayMention (decl : RuleDecl) (space : String) (earlier : List (String × RuleDecl))
    (externals : List String) : Reference → Prop
  | .string name => name ∈ decl.strings.map StringDecl.identifier
  | .rule name => (space, name) ∈ ruleNames earlier
  | .external name => name ∈ externals
  | .them => decl.strings ≠ []

/-- A rule is in order where it is added to a namespace after some others. -/
structure Fits (decl : RuleDecl) (space : String) (earlier : List (String × RuleDecl))
    (externals : List String) : Prop where
  isNew : (space, decl.name) ∉ ruleNames earlier
  distinct : (decl.strings.map StringDecl.identifier).Nodup
  valid : ∀ string ∈ decl.strings, string.Valid
  known : ∀ reference ∈ decl.condition.references, decl.MayMention space earlier externals reference

end RuleDecl

namespace Compilation

variable {compilation middle : Compilation} {decls done : List (String × RuleDecl)}
  {space : String} {decl : RuleDecl} {strings : List (String × Nat)}

theorem isSome_earlierRule?_iff {name : String} :
    (earlierRule? done done.length space name).isSome = true ↔ (space, name) ∈ ruleNames done := by
  rw [earlierRule?, List.take_length, List.findIdx?_isSome, List.any_eq_true]
  simp [ruleNames]

theorem Numbered.knows_iff (numbered : compilation.Numbered done) {spaceNumber : Nat}
    (isSpace : compilation.spaces[spaceNumber]? = some space)
    (added : addStrings decl.name compilation.rules.size [] compilation decl.strings =
      .ok (strings, middle)) (reference : Reference) :
    Scope.Knows ⟨decl.name, compilation.rules.size, strings, middle.ruleNumber? spaceNumber,
        middle.externals⟩ reference ↔
      decl.MayMention space done compilation.externals reference := by
  obtain ⟨named, _⟩ := addStrings_lists added
  obtain ⟨grows, _, rules, _⟩ := addStrings_spec added nofun
  cases reference with
  | string name =>
      simp only [Scope.Knows, RuleDecl.MayMention, isSome_lookup_iff, named]
      simp
  | rule name =>
      simp only [Scope.Knows, RuleDecl.MayMention, ← isSome_earlierRule?_iff,
        ← numbered.ruleNumber?_eq isSpace, ruleNumber?, rules]
  | external name => simp only [Scope.Knows, RuleDecl.MayMention, grows.externals]
  | them => simp [Scope.Knows, RuleDecl.MayMention, named]

/-- A rule is added exactly where it is in order. -/
theorem Numbered.addRule_ok_iff (numbered : compilation.Numbered done) (space : String)
    (decl : RuleDecl) :
    (∃ after, compilation.addRule space decl = .ok after) ↔
      decl.Fits space done compilation.externals := by
  obtain ⟨grows, isSpace, _⟩ := enter_spec compilation space numbered.distinct
  have entered := numbered.entered space
  have isNew : ((compilation.enter space).2.ruleNumber? (compilation.enter space).1
      decl.name).isSome = true ↔ (space, decl.name) ∈ ruleNames done := by
    rw [entered.ruleNumber?_eq isSpace, isSome_earlierRule?_iff]
  rw [← grows.externals]
  constructor
  · rintro ⟨after, added⟩
    obtain ⟨strings, middle, instructions, adds, -⟩ := addRule_eq_ok added
    obtain ⟨distinct, -, valid⟩ := addStrings_ok_iff.mp ⟨_, adds.added⟩
    have known := (Condition.ruleCode_ok_iff _ _).mp ⟨instructions, adds.compiled⟩
    refine ⟨mt isNew.mpr adds.isNew, distinct, valid, fun reference member => ?_⟩
    exact (entered.knows_iff isSpace adds.added reference).mp (known reference member)
  · intro fits
    obtain ⟨⟨strings, middle⟩, added⟩ : ∃ result, addStrings decl.name
        (compilation.enter space).2.rules.size [] (compilation.enter space).2 decl.strings =
          .ok result :=
      addStrings_ok_iff.mpr ⟨fits.distinct, fun _ _ => List.not_mem_nil, fits.valid⟩
    obtain ⟨instructions, compiled⟩ := (Condition.ruleCode_ok_iff _ _).mpr fun reference member =>
      (entered.knows_iff isSpace added reference).mpr (fits.known reference member)
    exact ⟨_, Adds.addRule ⟨mt isNew.mp fits.isNew, added, compiled⟩⟩

/-- Rules are added one after another exactly where each of them is in order. -/
theorem Numbered.addRules_ok_iff (numbered : compilation.Numbered done)
    (decls : List (String × RuleDecl)) :
    (∃ after, Compilation.addRules compilation decls = .ok after) ↔
      ∀ (number : Nat) space decl, decls[number]? = some (space, decl) →
        decl.Fits space (done ++ decls.take number) compilation.externals := by
  induction decls generalizing compilation done with
  | nil => simp [Compilation.addRules]
  | cons entry decls ih =>
      obtain ⟨space, decl⟩ := entry
      have first := numbered.addRule_ok_iff space decl
      rw [Compilation.addRules]
      cases added : compilation.addRule space decl with
      | error error =>
          have unfit : ¬decl.Fits space done compilation.externals := by
            rw [← first, added]
            simp
          constructor
          · simp
          · intro fit
            exact absurd (by simpa using fit 0 space decl rfl) unfit
      | ok next =>
          obtain ⟨numbered', same⟩ := numbered.addRule added
          have later := ih numbered'
          rw [same] at later
          refine later.trans ⟨fun fit => ?_, fun fit number => ?_⟩
          · rintro (_ | number) other declared listed
            · cases listed
              simpa using first.mp ⟨next, added⟩
            · simpa using fit number other declared listed
          · intro other declared listed
            simpa using fit (number + 1) other declared listed

end Compilation

end ByteScan
