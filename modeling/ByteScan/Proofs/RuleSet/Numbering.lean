import ByteScan.RuleSet.Compilation
import Mathlib.Data.List.Nodup

/-!
# Numbers of rules, strings and namespaces

`Compilation.Numbered` says what the numbers mean that rules, their strings and their namespaces get
while rules are added one after another. What is numbered once keeps its number, so each rule is
looked at only when it is added.
-/

namespace ByteScan

/-- The number of the earlier rule of a name in the namespace of a rule. -/
def earlierRule? (decls : List (String × RuleDecl)) (number : Nat) (space name : String) :
    Option Nat :=
  (decls.take number).findIdx? fun entry => entry.1 == space && entry.2.name == name

namespace Compilation

/-! ## What grows -/

/-- What has a number keeps it. -/
structure Grows (before after : Compilation) : Prop where
  spaces : ∀ (number : Nat) space, before.spaces[number]? = some space →
    after.spaces[number]? = some space
  rules : ∀ (number : Nat) rule, before.rules[number]? = some rule →
    after.rules[number]? = some rule
  strings : ∀ (number : Nat) string, before.strings[number]? = some string →
    after.strings[number]? = some string
  code : ∀ (number : Nat) instructions, before.code.reverse[number]? = some instructions →
    after.code.reverse[number]? = some instructions
  externals : after.externals = before.externals

theorem Grows.refl (compilation : Compilation) : Grows compilation compilation :=
  ⟨fun _ _ => id, fun _ _ => id, fun _ _ => id, fun _ _ => id, rfl⟩

theorem Grows.trans {first second third : Compilation} (early : Grows first second)
    (late : Grows second third) : Grows first third where
  spaces := fun number space found => late.spaces number space (early.spaces number space found)
  rules := fun number rule found => late.rules number rule (early.rules number rule found)
  strings := fun number string found =>
    late.strings number string (early.strings number string found)
  code := fun number instructions found =>
    late.code number instructions (early.code number instructions found)
  externals := late.externals.trans early.externals

theorem getElem?_push_of_some {items : Array α} {number : Nat} {found : α} (added : α)
    (same : items[number]? = some found) : (items.push added)[number]? = some found := by
  obtain ⟨within, _⟩ := Array.getElem?_eq_some_iff.mp same
  rw [Array.getElem?_push_lt within]
  rwa [Array.getElem?_eq_getElem within] at same

/-! ## Namespaces -/

theorem enter_spec (compilation : Compilation) (space : String)
    (distinct : compilation.spaces.toList.Nodup) :
    Grows compilation (compilation.enter space).2 ∧
      (compilation.enter space).2.spaces[(compilation.enter space).1]? = some space ∧
      (compilation.enter space).2.spaces.toList.Nodup ∧
      (compilation.enter space).2.rules = compilation.rules ∧
      (compilation.enter space).2.strings = compilation.strings ∧
      (compilation.enter space).2.code = compilation.code := by
  rw [enter]
  split
  · rename_i number found
    obtain ⟨index, isIndex, rfl⟩ := Option.map_eq_some_iff.mp found
    refine ⟨.refl _, ?_, distinct, rfl, rfl, rfl⟩
    rw [Array.getElem?_eq_getElem index.isLt]
    exact congrArg some (Array.finIdxOf?_eq_some_iff.mp isIndex).1
  · rename_i absent
    refine ⟨⟨?_, fun _ _ => id, fun _ _ => id, fun _ _ => id, rfl⟩, ?_, ?_, rfl, rfl, rfl⟩
    · exact fun _ _ => getElem?_push_of_some space
    · exact Array.getElem?_push_size
    · rw [Array.toList_push, ← List.concat_eq_append]
      refine List.Nodup.concat ?_ distinct
      rw [Array.mem_toList_iff]
      exact Array.idxOf?_eq_none_iff.mp absent

/-! ## Strings -/

def Names (compilation : Compilation) (entry : String × Nat) : Prop :=
  ∃ string, compilation.strings[entry.2]? = some string ∧ string.identifier = entry.1

theorem Names.grow {before after : Compilation} {entry : String × Nat} (names : before.Names entry)
    (grows : Grows before after) : after.Names entry := by
  obtain ⟨string, found, same⟩ := names
  exact ⟨string, grows.strings _ _ found, same⟩

theorem names_of_compile {decl : StringDecl} {rule : String} {number : Nat}
    {string : StringDef} (compiled : decl.compile rule number = .ok string) :
    string.identifier = decl.identifier ∧ string.rule = number := by
  simp only [StringDecl.compile] at compiled
  split at compiled
  · split at compiled
    · cases compiled
    · cases compiled
      exact ⟨rfl, rfl⟩
  · split at compiled
    · cases compiled
    · cases compiled
    · cases compiled
      exact ⟨rfl, rfl⟩
  · split at compiled
    · cases compiled
    · split at compiled
      · cases compiled
      · cases compiled
        exact ⟨rfl, rfl⟩

/-- The strings of a rule get numbers of their own, and nothing else changes. -/
theorem addStrings_spec {rule : String} {number : Nat} {decls : List StringDecl}
    {own strings : List (String × Nat)} {compilation after : Compilation}
    (added : addStrings rule number own compilation decls = .ok (strings, after))
    (named : ∀ entry ∈ own, compilation.Names entry) :
    Grows compilation after ∧ after.spaces = compilation.spaces ∧
      after.rules = compilation.rules ∧ after.code = compilation.code ∧
      (∀ entry ∈ strings, after.Names entry) ∧
      ∀ string ∈ after.strings, string ∈ compilation.strings ∨ string.rule = number := by
  induction decls generalizing own compilation with
  | nil =>
      cases added
      refine ⟨.refl _, rfl, rfl, rfl, ?_, fun _ => Or.inl⟩
      intro entry member
      exact named entry (List.mem_reverse.mp member)
  | cons decl decls ih =>
      rw [addStrings] at added
      split at added
      · cases added
      · split at added
        · cases added
        · rename_i string compiled
          have step : Grows compilation
              { compilation with strings := compilation.strings.push string } :=
            ⟨fun _ _ => id, fun _ _ => id, fun _ _ => getElem?_push_of_some string,
              fun _ _ => id, rfl⟩
          obtain ⟨sameName, sameRule⟩ := names_of_compile compiled
          obtain ⟨grows, spaces, rules, code, names, owners⟩ := ih added (by
            intro entry member
            rcases List.mem_cons.mp member with isNew | isOld
            · rw [isNew]
              exact ⟨string, Array.getElem?_push_size, sameName⟩
            · exact (named entry isOld).grow step)
          refine ⟨step.trans grows, spaces, rules, code, names, ?_⟩
          intro other member
          rcases owners other member with pushed | isNew
          · rcases Array.mem_push.mp pushed with isOld | same
            · exact Or.inl isOld
            · exact Or.inr (same ▸ sameRule)
          · exact Or.inr isNew

/-! ## Rules -/

/-- A declared rule has a number, and its condition was compiled for what its names mean. -/
structure Declares (compilation : Compilation) (decls : List (String × RuleDecl)) (number : Nat)
    (space : String) (decl : RuleDecl) (rule : Rule) (scope : Scope)
    (instructions : List Instruction) : Prop where
  listed : compilation.rules[number]? = some rule
  sameName : rule.identifier = decl.name
  inSpace : compilation.spaces[rule.space]? = some space
  samePrivate : rule.isPrivate = decl.isPrivate
  sameGlobal : rule.isGlobal = decl.isGlobal
  sameStrings : rule.strings = scope.strings.map Prod.snd
  names : ∀ entry ∈ scope.strings, compilation.Names entry
  sameNumber : scope.number = number
  sameEarlier : ∀ name, scope.earlierRule? name = earlierRule? decls number space name
  sameExternals : scope.externals = compilation.externals
  compiled : decl.condition.ruleCode scope = .ok instructions
  coded : compilation.code.reverse[number]? = some instructions

/-- All declared rules have been numbered in their order. -/
structure Numbered (compilation : Compilation) (decls : List (String × RuleDecl)) : Prop where
  count : compilation.rules.size = decls.length
  codes : compilation.code.length = decls.length
  distinct : compilation.spaces.toList.Nodup
  owners : ∀ string ∈ compilation.strings, string.rule < compilation.rules.size
  each : ∀ (number : Nat) space decl, decls[number]? = some (space, decl) →
    ∃ rule scope instructions,
      Declares compilation decls number space decl rule scope instructions

theorem earlierRule?_append {decls : List (String × RuleDecl)} {number : Nat}
    (within : number ≤ decls.length) (more : List (String × RuleDecl)) (space name : String) :
    earlierRule? (decls ++ more) number space name = earlierRule? decls number space name := by
  rw [earlierRule?, List.take_append_of_le_length within]
  rfl

theorem Declares.grow {before after : Compilation} {decls : List (String × RuleDecl)}
    {number : Nat} {space : String} {decl : RuleDecl} {rule : Rule} {scope : Scope}
    {instructions : List Instruction}
    (declares : Declares before decls number space decl rule scope instructions)
    (grows : Grows before after) (within : number ≤ decls.length)
    (more : List (String × RuleDecl)) :
    Declares after (decls ++ more) number space decl rule scope instructions where
  listed := grows.rules _ _ declares.listed
  sameName := declares.sameName
  inSpace := grows.spaces _ _ declares.inSpace
  samePrivate := declares.samePrivate
  sameGlobal := declares.sameGlobal
  sameStrings := declares.sameStrings
  names := fun entry member => (declares.names entry member).grow grows
  sameNumber := declares.sameNumber
  sameEarlier := fun name => by
    rw [earlierRule?_append within]
    exact declares.sameEarlier name
  sameExternals := declares.sameExternals.trans grows.externals.symm
  compiled := declares.compiled
  coded := grows.code _ _ declares.coded

theorem findIdx?_congr {left : List α} {right : List β} {first : α → Bool} {second : β → Bool}
    (lengths : left.length = right.length)
    (same : ∀ (index : Nat) item other, left[index]? = some item → right[index]? = some other →
      first item = second other) :
    left.findIdx? first = right.findIdx? second := by
  induction left generalizing right with
  | nil =>
      rw [List.length_eq_zero_iff.mp lengths.symm]
      rfl
  | cons item left ih =>
      cases right with
      | nil => cases lengths
      | cons other right =>
          rw [List.findIdx?_cons, List.findIdx?_cons, same 0 item other rfl rfl,
            ih (Nat.succ.inj lengths) fun index => same (index + 1)]

/-- Namespaces have the same number where they have the same name. -/
theorem space_eq_iff {spaces : Array String} (distinct : spaces.toList.Nodup) {left right : Nat}
    {first second : String} (isFirst : spaces[left]? = some first)
    (isSecond : spaces[right]? = some second) : left = right ↔ first = second := by
  constructor
  · intro same
    rw [same, isSecond] at isFirst
    exact (Option.some.inj isFirst).symm
  · intro same
    obtain ⟨within, _⟩ := Array.getElem?_eq_some_iff.mp isFirst
    refine (List.getElem?_inj within distinct).mp ?_
    rw [Array.getElem?_toList, Array.getElem?_toList, isFirst, isSecond, same]

/-- The rules numbered so far are looked up by name as the declarations are. -/
theorem Numbered.ruleNumber?_eq {compilation : Compilation} {decls : List (String × RuleDecl)}
    (numbered : compilation.Numbered decls) {spaceNumber : Nat} {space : String}
    (isSpace : compilation.spaces[spaceNumber]? = some space) (name : String) :
    compilation.ruleNumber? spaceNumber name = earlierRule? decls decls.length space name := by
  rw [ruleNumber?, earlierRule?, List.take_length]
  refine (List.findIdx?_toArray _ compilation.rules.toList).trans ?_
  refine findIdx?_congr numbered.count ?_
  rintro index rule ⟨ofSpace, decl⟩ isRule isDecl
  obtain ⟨declared, scope, instructions, declares⟩ := numbered.each index ofSpace decl isDecl
  rw [Array.getElem?_toList, declares.listed] at isRule
  cases isRule
  have spaces := space_eq_iff numbered.distinct declares.inSpace isSpace
  rw [declares.sameName, Bool.eq_iff_iff]
  simp only [Bool.and_eq_true, beq_iff_eq, spaces]

theorem Numbered.entered {compilation : Compilation} {decls : List (String × RuleDecl)}
    (numbered : compilation.Numbered decls) (space : String) :
    (compilation.enter space).2.Numbered decls := by
  obtain ⟨grows, _, distinct, rules, strings, code⟩ :=
    enter_spec compilation space numbered.distinct
  refine ⟨rules ▸ numbered.count, code ▸ numbered.codes, distinct, ?_, ?_⟩
  · rw [strings, rules]
    exact numbered.owners
  intro number ofSpace decl listed
  obtain ⟨rule, scope, instructions, declares⟩ := numbered.each number ofSpace decl listed
  have within := (List.getElem?_eq_some_iff.mp listed).1
  have grown := declares.grow grows (Nat.le_of_lt within) []
  rw [List.append_nil] at grown
  exact ⟨rule, scope, instructions, grown⟩

theorem grows_add (compilation : Compilation) (rule : Rule) (instructions : List Instruction) :
    Grows compilation { compilation with
      rules := compilation.rules.push rule
      code := instructions :: compilation.code } where
  spaces := fun _ _ => id
  rules := fun _ _ => getElem?_push_of_some rule
  strings := fun _ _ => id
  code := by
    intro number earlier found
    have within := (List.getElem?_eq_some_iff.mp found).1
    rw [List.reverse_cons, List.getElem?_append_left within, found]
  externals := rfl

/-- The rule that is added declares what its declaration says. -/
theorem Numbered.declares_add {before middle : Compilation} {decls : List (String × RuleDecl)}
    (numbered : before.Numbered decls) {space : String} {decl : RuleDecl} {spaceNumber : Nat}
    (isSpace : before.spaces[spaceNumber]? = some space) (growing : Grows before middle)
    (rules : middle.rules = before.rules) (code : middle.code = before.code)
    {strings : List (String × Nat)} (names : ∀ entry ∈ strings, middle.Names entry)
    {instructions : List Instruction}
    (compiled : decl.condition.ruleCode ⟨decl.name, before.rules.size, strings,
      middle.ruleNumber? spaceNumber, middle.externals⟩ = .ok instructions) :
    let rule : Rule := ⟨decl.name, spaceNumber, decl.isPrivate, decl.isGlobal,
      strings.map Prod.snd, decl.tags⟩
    Declares
      { middle with rules := middle.rules.push rule, code := instructions :: middle.code }
      (decls ++ [(space, decl)]) decls.length space decl rule
      ⟨decl.name, before.rules.size, strings, middle.ruleNumber? spaceNumber, middle.externals⟩
      instructions := by
  intro rule
  have adding := grows_add middle rule instructions
  have ruleCount : middle.rules.size = decls.length := by rw [rules, numbered.count]
  have codeCount : middle.code.reverse.length = decls.length := by
    rw [List.length_reverse, code, numbered.codes]
  constructor
  case listed =>
    rw [← ruleCount]
    exact Array.getElem?_push_size
  case sameName => rfl
  case inSpace => exact growing.spaces _ _ isSpace
  case samePrivate => rfl
  case sameGlobal => rfl
  case sameStrings => rfl
  case names => exact fun entry member => (names entry member).grow adding
  case sameNumber => exact numbered.count
  case sameEarlier =>
    intro name
    have lookup := numbered.ruleNumber?_eq isSpace name
    rw [earlierRule?_append (Nat.le_refl _), ← lookup]
    simp only [ruleNumber?, rules]
  case sameExternals => rfl
  case compiled => exact compiled
  case coded =>
    rw [List.reverse_cons, ← codeCount]
    exact List.getElem?_concat_length

/-! ## Adding a rule -/

structure Adds (compilation : Compilation) (space : Nat) (decl : RuleDecl) (strings : List (String × Nat))
    (middle : Compilation) (instructions : List Instruction) : Prop where
  isNew : ¬(compilation.ruleNumber? space decl.name).isSome = true
  added : addStrings decl.name compilation.rules.size [] compilation decl.strings =
    .ok (strings, middle)
  compiled : decl.condition.ruleCode ⟨decl.name, compilation.rules.size, strings,
    middle.ruleNumber? space, middle.externals⟩ = .ok instructions

def withRule (middle : Compilation) (space : Nat) (decl : RuleDecl) (strings : List (String × Nat))
    (instructions : List Instruction) : Compilation :=
  { middle with
    rules := middle.rules.push ⟨decl.name, space, decl.isPrivate, decl.isGlobal,
      strings.map Prod.snd, decl.tags⟩
    code := instructions :: middle.code }

section

variable (middle : Compilation) (space : Nat) (decl : RuleDecl) (strings : List (String × Nat))
  (instructions : List Instruction)

theorem strings_withRule :
    (withRule middle space decl strings instructions).strings = middle.strings := rfl

theorem spaces_withRule :
    (withRule middle space decl strings instructions).spaces = middle.spaces := rfl

theorem size_rules_withRule :
    (withRule middle space decl strings instructions).rules.size = middle.rules.size + 1 :=
  Array.size_push _

theorem rules_withRule :
    (withRule middle space decl strings instructions).rules.toList.zipIdx =
      middle.rules.toList.zipIdx ++ [(⟨decl.name, space, decl.isPrivate, decl.isGlobal,
        strings.map Prod.snd, decl.tags⟩, middle.rules.size)] := by
  rw [withRule, Array.toList_push, List.zipIdx_append, Array.length_toList, Nat.zero_add]
  rfl

theorem code_withRule : (withRule middle space decl strings instructions).code.reverse =
    middle.code.reverse ++ [instructions] :=
  List.reverse_cons

end

theorem addRule_eq_ok {compilation after : Compilation} {space : String} {decl : RuleDecl}
    (added : compilation.addRule space decl = .ok after) :
    ∃ strings middle instructions,
      Adds (compilation.enter space).2 (compilation.enter space).1 decl strings middle instructions ∧
        after = withRule middle (compilation.enter space).1 decl strings instructions := by
  simp only [addRule, bind, Except.bind] at added
  split at added
  · cases added
  · rename_i isNew
    split at added
    · cases added
    · rename_i result isResult
      split at added
      · cases added
      · rename_i instructions compiled
        cases added
        exact ⟨result.1, result.2, instructions, ⟨isNew, isResult, compiled⟩, rfl⟩

theorem Adds.addRule {compilation middle : Compilation} {space : String} {decl : RuleDecl}
    {strings : List (String × Nat)} {instructions : List Instruction}
    (adds : Adds (compilation.enter space).2 (compilation.enter space).1 decl strings middle
      instructions) :
    compilation.addRule space decl =
      .ok (withRule middle (compilation.enter space).1 decl strings instructions) := by
  simp only [Compilation.addRule, bind, Except.bind, if_neg adds.isNew, adds.added, adds.compiled]
  rfl

theorem Adds.rest {compilation middle : Compilation} {space : Nat} {decl : RuleDecl}
    {strings : List (String × Nat)} {instructions : List Instruction}
    (adds : Adds compilation space decl strings middle instructions) :
    Grows compilation (withRule middle space decl strings instructions) ∧
      middle.spaces = compilation.spaces ∧ middle.rules = compilation.rules ∧
      middle.code = compilation.code ∧ middle.externals = compilation.externals := by
  obtain ⟨grows, spaces, rules, code, _⟩ := addStrings_spec adds.added nofun
  exact ⟨grows.trans (grows_add middle _ instructions), spaces, rules, code, grows.externals⟩

theorem Numbered.addRule {compilation after : Compilation} {decls : List (String × RuleDecl)}
    (numbered : compilation.Numbered decls) {space : String} {decl : RuleDecl}
    (added : compilation.addRule space decl = .ok after) :
    after.Numbered (decls ++ [(space, decl)]) ∧ after.externals = compilation.externals := by
  obtain ⟨entering, isSpace, _⟩ := enter_spec compilation space numbered.distinct
  have entered := numbered.entered space
  obtain ⟨strings, middle, instructions, adds, rfl⟩ := addRule_eq_ok added
  obtain ⟨adding, spaces, rules, code, externals⟩ := adds.rest
  obtain ⟨growing, _, _, _, names, owners⟩ := addStrings_spec adds.added nofun
  refine ⟨⟨?_, ?_, ?_, ?_, ?_⟩, externals.trans entering.externals⟩
  · rw [size_rules_withRule, rules, entered.count, List.length_append, List.length_singleton]
  · rw [withRule, List.length_cons, code, entered.codes, List.length_append, List.length_singleton]
  · rw [spaces_withRule, spaces]
    exact entered.distinct
  · intro string member
    rw [size_rules_withRule, rules]
    rcases owners string member with isOld | isNew
    · exact Nat.lt_succ_of_lt (entered.owners string isOld)
    · rw [isNew]
      exact Nat.lt_succ_self _
  · intro number ofSpace other listed
    by_cases earlier : number < decls.length
    · rw [List.getElem?_append_left earlier] at listed
      obtain ⟨rule, scope, own, declares⟩ := entered.each number ofSpace other listed
      exact ⟨rule, scope, own, declares.grow adding (Nat.le_of_lt earlier) _⟩
    · have isLast : number = decls.length := by
        have within := (List.getElem?_eq_some_iff.mp listed).1
        rw [List.length_append, List.length_singleton] at within
        omega
      subst isLast
      rw [List.getElem?_concat_length] at listed
      cases listed
      exact ⟨_, _, _, entered.declares_add isSpace growing rules code names adds.compiled⟩

/-- All rules that are added are numbered. -/
theorem Numbered.addRules {compilation after : Compilation} {done decls : List (String × RuleDecl)}
    (numbered : compilation.Numbered done)
    (added : Compilation.addRules compilation decls = .ok after) :
    after.Numbered (done ++ decls) ∧ after.externals = compilation.externals := by
  induction decls generalizing compilation done with
  | nil =>
      cases added
      exact ⟨by rwa [List.append_nil], rfl⟩
  | cons entry decls ih =>
      obtain ⟨space, decl⟩ := entry
      rw [Compilation.addRules] at added
      split at added
      · rename_i next isNext
        obtain ⟨numbered', same⟩ := numbered.addRule isNext
        obtain ⟨numbered'', same'⟩ := ih numbered' added
        rw [List.append_assoc] at numbered''
        exact ⟨numbered'', same'.trans same⟩
      · cases added

theorem numbered_start (externals : List String) :
    Numbered ⟨#[], #[], #[], [], externals⟩ [] :=
  ⟨rfl, rfl, List.nodup_nil, nofun, nofun⟩

end Compilation

end ByteScan
