import ByteScan.Proofs.RuleSet.Accepting
import ByteScan.Proofs.RuleSet.Compiling
import ByteScan.Proofs.Unrepeated
import Mathlib.Data.List.Forall2

/-!
# Order of what is compiled

Rules are collected by calls: a namespace is entered, a variable defined or a rule added. The main
statement says which calls make a collection that compiles, and in which order the compiled rule set
holds its namespaces, rules and strings.
-/

namespace ByteScan

/-! ## Calls -/

/-- A call that adds to a collection. -/
inductive Call where
  | enter (space : String)
  | define (name : String) (value : ExternalDefault)
  | add (rule : RuleDecl)

namespace Call

def externals : List Call → List String
  | [] => []
  | .define name _ :: calls => name :: externals calls
  | .enter _ :: calls | .add _ :: calls => externals calls

/-- The rules that are added, each with its namespace: the one that it names, or else the one that was
entered last. -/
def rules (space : String) : List Call → List (String × RuleDecl)
  | [] => []
  | .enter next :: calls => rules next calls
  | .define _ _ :: calls => rules space calls
  | .add rule :: calls => (rule.space.getD space, rule) :: rules space calls

end Call

namespace Collection

def call (collection : Collection) : Call → Collection
  | .enter space => collection.enter space
  | .define name value => collection.define name value.value
  | .add rule => collection.add rule

def ofCalls (calls : List Call) : Collection := calls.foldl call {}

theorem foldl_call (calls : List Call) (collection : Collection) :
    (calls.foldl call collection).rules = collection.rules ++ Call.rules collection.space calls ∧
      (calls.foldl call collection).externals.map External.identifier =
        collection.externals.map External.identifier ++ Call.externals calls := by
  induction calls generalizing collection with
  | nil => simp [Call.rules, Call.externals]
  | cons first calls ih =>
      rw [List.foldl_cons, (ih _).1, (ih _).2]
      cases first <;> simp [call, enter, define, add, Call.rules, Call.externals]

theorem rules_ofCalls (calls : List Call) :
    (ofCalls calls).rules = Call.rules defaultSpace calls := by
  simp [ofCalls, foldl_call]

theorem externals_ofCalls (calls : List Call) :
    (ofCalls calls).externals.map External.identifier = Call.externals calls := by
  simp [ofCalls, foldl_call]

end Collection

/-- The calls name variables, rules and strings apart, all patterns are valid, and each condition
speaks of what it may speak of where its rule is added. -/
structure WellFormed (calls : List Call) : Prop where
  externals : (Call.externals calls).Nodup
  names : (ruleNames (Call.rules defaultSpace calls)).Nodup
  strings : ∀ entry ∈ Call.rules defaultSpace calls,
    (entry.2.strings.map StringDecl.identifier).Nodup
  patterns : ∀ entry ∈ Call.rules defaultSpace calls, ∀ string ∈ entry.2.strings, string.Valid
  conditions : ∀ (number : Nat) space decl,
    (Call.rules defaultSpace calls)[number]? = some (space, decl) →
      ∀ reference ∈ decl.condition.references,
        decl.MayMention space ((Call.rules defaultSpace calls).take number)
          (Call.externals calls) reference

theorem nodup_iff_not_mem_take (items : List α) :
    items.Nodup ↔ ∀ (number : Nat) item, items[number]? = some item → item ∉ items.take number := by
  rw [List.nodup_iff_getElem?_ne_getElem?]
  simp only [List.mem_take_iff_getElem]
  constructor
  · rintro apart number item listed ⟨earlier, before, rfl⟩
    grind
  · intro absent first second before within same
    grind

theorem wellFormed_iff (calls : List Call) :
    WellFormed calls ↔ (Call.externals calls).Nodup ∧
      ∀ (number : Nat) space decl, (Call.rules defaultSpace calls)[number]? = some (space, decl) →
        decl.Fits space ((Call.rules defaultSpace calls).take number) (Call.externals calls) := by
  have apart := nodup_iff_not_mem_take (ruleNames (Call.rules defaultSpace calls))
  simp only [ruleNames, List.getElem?_map, Option.map_eq_some_iff, ← List.map_take] at apart
  constructor
  · intro formed
    refine ⟨formed.externals, fun number space decl listed => ?_⟩
    have member := List.mem_of_getElem? listed
    exact ⟨apart.mp formed.names number _ ⟨_, listed, rfl⟩, formed.strings _ member,
      formed.patterns _ member, formed.conditions number space decl listed⟩
  · rintro ⟨externals, fits⟩
    have each (entry) (member : entry ∈ Call.rules defaultSpace calls) :
        ∃ number, entry.2.Fits entry.1 ((Call.rules defaultSpace calls).take number)
          (Call.externals calls) := by
      obtain ⟨number, listed⟩ := List.getElem?_of_mem member
      exact ⟨number, fits number entry.1 entry.2 listed⟩
    refine ⟨externals, apart.mpr ?_, ?_, ?_, ?_⟩
    · rintro number _ ⟨⟨space, decl⟩, listed, rfl⟩
      exact (fits number space decl listed).isNew
    · intro entry member
      obtain ⟨_, fit⟩ := each entry member
      exact fit.distinct
    · intro entry member
      obtain ⟨_, fit⟩ := each entry member
      exact fit.valid
    · exact fun number space decl listed => (fits number space decl listed).known

/-! ## Order -/

def declaredStrings (entries : List (String × RuleDecl)) : List StringDef :=
  entries.zipIdx.flatMap fun (entry, number) =>
    entry.2.strings.filterMap fun string => (string.compile entry.2.name number).toOption

def TableFits (entries : List (String × RuleDecl)) : Prop :=
  (Automaton.tablesOf (signsOf (declaredStrings entries))
    (declaredStrings entries).length).cells.size ≤ Automaton.tableLimit

structure Records (spaces : Array String) (rule : Rule) (entry : String × RuleDecl) : Prop where
  inSpace : spaces[rule.space]? = some entry.1
  sameName : rule.identifier = entry.2.name
  samePrivate : rule.isPrivate = entry.2.isPrivate
  sameGlobal : rule.isGlobal = entry.2.isGlobal
  sameTags : rule.tags = entry.2.tags
  sameCount : rule.strings.length = entry.2.strings.length

/-- Namespaces, rules and strings stand in the order of the declarations. -/
structure InOrder (spaces : Array String) (rules : Array Rule) (strings : Array StringDef)
    (entries : List (String × RuleDecl)) : Prop where
  /-- Namespaces come in the order of their first use. -/
  firstUses : spaces.toList = (entries.map Prod.fst).eraseDups
  distinct : spaces.toList.Nodup
  records : List.Forall₂ (Records spaces) rules.toList entries
  declared : strings.toList = declaredStrings entries
  identifiers : strings.toList.map StringDef.identifier =
    entries.flatMap fun entry => entry.2.strings.map StringDecl.identifier
  /-- The numbers of strings go on from rule to rule. -/
  consecutive : rules.toList.flatMap Rule.strings = List.range strings.size
  /-- Each string is one of the rule that it belongs to, and of no other one. -/
  owners : ∀ (number : Nat) string, strings[number]? = some string →
    string.rule < rules.size ∧ ∀ (owner : Nat) rule, rules[owner]? = some rule →
      (number ∈ rule.strings ↔ owner = string.rule)

theorem compiled_cases {rule : String} {number : Nat} {declared : List StringDecl}
    {more : List StringDef}
    (each : List.Forall₂ (fun decl string => StringDecl.compile decl rule number = .ok string)
      declared more) :
    declared.filterMap (fun decl => (decl.compile rule number).toOption) = more ∧
      more.map StringDef.identifier = declared.map StringDecl.identifier ∧
      ∀ string ∈ more, string.rule = number := by
  induction each with
  | nil => exact ⟨rfl, rfl, nofun⟩
  | cons same _ ih =>
      obtain ⟨compiled, named, owned⟩ := ih
      obtain ⟨sameName, sameRule⟩ := Compilation.names_of_compile same
      refine ⟨?_, ?_, List.forall_mem_cons.mpr ⟨sameRule, owned⟩⟩
      · rw [List.filterMap_cons, same, compiled]
        rfl
      · rw [List.map_cons, List.map_cons, named, sameName]

namespace Compilation

variable {compilation middle after : Compilation} {done decls : List (String × RuleDecl)}
  {space : String} {decl : RuleDecl}

theorem spaces_enter (compilation : Compilation) (space : String) :
    (compilation.enter space).2.spaces.toList =
      if space ∈ compilation.spaces.toList then compilation.spaces.toList
      else compilation.spaces.toList ++ [space] := by
  rw [enter]
  split
  · rename_i number found
    have member : space ∈ compilation.spaces := by
      by_contra absent
      rw [Array.idxOf?_eq_none_iff.mpr absent] at found
      cases found
    rw [if_pos (Array.mem_toList_iff.mpr member)]
  · rename_i absent
    rw [if_neg (mt Array.mem_toList_iff.mp (Array.idxOf?_eq_none_iff.mp absent)), Array.toList_push]

def declaredRule (space : Nat) (decl : RuleDecl) (first : Nat) : Rule :=
  ⟨decl.name, space, decl.isPrivate, decl.isGlobal, List.range' first decl.strings.length, decl.tags⟩

theorem owner_cases {rules : Array Rule} {spaceNumber first owner : Nat} {rule : Rule}
    (listed : (rules.push (declaredRule spaceNumber decl first))[owner]? = some rule) :
    owner = rules.size ∧ (∀ number, number ∈ rule.strings ↔
        first ≤ number ∧ number < first + decl.strings.length) ∨
      owner ≠ rules.size ∧ rules[owner]? = some rule := by
  rw [Array.getElem?_push] at listed
  split at listed
  · rename_i isLast
    cases listed
    exact Or.inl ⟨isLast, fun number => List.mem_range'_1⟩
  · rename_i notLast
    exact Or.inr ⟨notLast, listed⟩

theorem lists_of_addRule (added : compilation.addRule space decl = .ok after) :
    after.spaces = (compilation.enter space).2.spaces ∧
      after.rules = compilation.rules.push
        (declaredRule (compilation.enter space).1 decl compilation.strings.size) ∧
      ∃ more, after.strings.toList = compilation.strings.toList ++ more ∧
        List.Forall₂ (fun declared string =>
          StringDecl.compile declared decl.name compilation.rules.size = .ok string)
          decl.strings more := by
  have entered : (compilation.enter space).2.rules = compilation.rules ∧
      (compilation.enter space).2.strings = compilation.strings := by
    rw [enter]
    split <;> exact ⟨rfl, rfl⟩
  obtain ⟨strings, middle, instructions, adds, rfl⟩ := addRule_eq_ok added
  obtain ⟨_, spaces, rules, _⟩ := adds.rest
  obtain ⟨named, more, listed, each⟩ := addStrings_lists adds.added
  rw [entered.1] at each rules
  rw [entered.2] at named listed
  refine ⟨spaces, ?_, more, listed, each⟩
  simp [withRule, rules, declaredRule, named]

/-- A rule that is added comes after those added before, and so do its strings. -/
theorem inOrder_addRule (ordered : InOrder compilation.spaces compilation.rules
      compilation.strings done) (numbered : compilation.Numbered done)
    (added : compilation.addRule space decl = .ok after) :
    InOrder after.spaces after.rules after.strings (done ++ [(space, decl)]) := by
  obtain ⟨grows, isSpace, distinct, _⟩ := enter_spec compilation space numbered.distinct
  obtain ⟨spaces, rules, more, strings, each⟩ := lists_of_addRule added
  have count := each.length_eq
  obtain ⟨compiled, named, owned⟩ := compiled_cases each
  have size : after.strings.size = compilation.strings.size + decl.strings.length := by
    have lengths := congrArg List.length strings
    simp only [Array.length_toList, List.length_append] at lengths
    omega
  constructor
  case firstUses =>
    rw [spaces, spaces_enter, ordered.firstUses, List.map_append, List.map_singleton,
      eraseDups_concat]
    simp only [List.mem_eraseDups]
  case distinct =>
    rw [spaces]
    exact distinct
  case records =>
    rw [rules, Array.toList_push, spaces]
    refine List.rel_append (ordered.records.imp fun rule entry records => ?_) (.cons ?_ .nil)
    · exact { records with inSpace := grows.spaces _ _ records.inSpace }
    · exact ⟨isSpace, rfl, rfl, rfl, rfl, List.length_range'⟩
  case declared =>
    rw [numbered.count] at compiled
    rw [strings, ordered.declared, ← compiled]
    simp [declaredStrings, List.zipIdx_append]
  case identifiers =>
    rw [strings, List.map_append, ordered.identifiers, named]
    simp
  case consecutive =>
    rw [rules, Array.toList_push, List.flatMap_append, ordered.consecutive, size,
      List.range_eq_range', List.range_eq_range', ← List.range'_append_1, Nat.zero_add]
    simp [declaredRule]
  case owners =>
    intro number string found
    rw [← Array.getElem?_toList, strings, List.getElem?_append, Array.length_toList] at found
    rw [rules, Array.size_push]
    split at found
    · rename_i isOld
      rw [Array.getElem?_toList] at found
      obtain ⟨within, owns⟩ := ordered.owners number string found
      refine ⟨Nat.lt_succ_of_lt within, fun owner rule listed => ?_⟩
      rcases owner_cases listed with ⟨isLast, mem_iff⟩ | ⟨_, listed⟩
      · rw [mem_iff]
        omega
      · exact owns owner rule listed
    · rename_i isNew
      have ofLast := owned string (List.mem_of_getElem? found)
      have within := (List.getElem?_eq_some_iff.mp found).1
      refine ⟨by omega, fun owner rule listed => ?_⟩
      rcases owner_cases listed with ⟨isLast, mem_iff⟩ | ⟨notLast, listed⟩
      · rw [mem_iff]
        omega
      · rw [ofLast]
        refine iff_of_false (fun member => isNew ?_) notLast
        -- the strings of the rules before have numbers below
        rw [← List.mem_range, ← ordered.consecutive]
        exact List.mem_flatMap_of_mem (Array.mem_toList_iff.mpr (Array.mem_of_getElem? listed))
          member

theorem inOrder_addRules (ordered : InOrder compilation.spaces compilation.rules
      compilation.strings done) (numbered : compilation.Numbered done)
    (added : Compilation.addRules compilation decls = .ok after) :
    InOrder after.spaces after.rules after.strings (done ++ decls) := by
  induction decls generalizing compilation done with
  | nil =>
      cases added
      rwa [List.append_nil]
  | cons entry decls ih =>
      obtain ⟨space, decl⟩ := entry
      rw [Compilation.addRules] at added
      split at added
      · rename_i next isNext
        have both := ih (inOrder_addRule ordered numbered isNext) (numbered.addRule isNext).1 added
        rwa [List.append_assoc] at both
      · cases added

theorem inOrder_start : InOrder #[] #[] #[] [] :=
  ⟨rfl, List.nodup_nil, .nil, rfl, rfl, rfl, nofun⟩

end Compilation

/-- Calls make a collection that compiles exactly where they are well-formed and the table is not too
large, and what is compiled stands in the order of the calls. -/
theorem Collection.compile_ofCalls (calls : List Call) :
    ((∃ rules, (Collection.ofCalls calls).compile = .ok rules) ↔
      WellFormed calls ∧ TableFits (Call.rules defaultSpace calls)) ∧
    ∀ rules, (Collection.ofCalls calls).compile = .ok rules →
      InOrder rules.spaces rules.rules rules.strings (Call.rules defaultSpace calls) := by
  have start := Compilation.numbered_start (Call.externals calls)
  have sameCompilation : (Collection.ofCalls calls).compilation =
      Compilation.addRules ⟨#[], #[], #[], [], Call.externals calls⟩
        (Call.rules defaultSpace calls) := by
    rw [Collection.compilation, externals_ofCalls, rules_ofCalls]
  have lists (compilation : Compilation)
      (isCompilation : (Collection.ofCalls calls).compilation = .ok compilation) :
      InOrder compilation.spaces compilation.rules compilation.strings
        (Call.rules defaultSpace calls) :=
    Compilation.inOrder_addRules Compilation.inOrder_start start (sameCompilation ▸ isCompilation)
  have apart : firstRepeated? [] ((Collection.ofCalls calls).externals.map External.identifier) =
      none ↔ (Call.externals calls).Nodup := by
    rw [externals_ofCalls, firstRepeated?_eq_none_iff]
    simp
  have accepted := start.addRules_ok_iff (Call.rules defaultSpace calls)
  simp only [← sameCompilation, List.nil_append] at accepted
  rw [wellFormed_iff, ← apart, ← accepted]
  refine ⟨⟨?_, ?_⟩, ?_⟩
  · rintro ⟨rules, compiled⟩
    obtain ⟨distinct, compilation, isCompilation, gives⟩ := compile_eq_ok compiled
    have fits := gives.fits
    rw [← Array.length_toList, (lists compilation isCompilation).declared] at fits
    exact ⟨⟨distinct, compilation, isCompilation⟩, fits⟩
  · rintro ⟨⟨distinct, compilation, isCompilation⟩, fits⟩
    rw [TableFits, ← (lists compilation isCompilation).declared, Array.length_toList] at fits
    obtain ⟨rules, compiled, _⟩ := compile_ok distinct isCompilation fits
    exact ⟨rules, compiled⟩
  · intro rules compiled
    obtain ⟨_, compilation, isCompilation, gives⟩ := compile_eq_ok compiled
    rw [gives.sameSpaces, gives.sameRules, gives.sameStrings]
    exact lists compilation isCompilation

end ByteScan
