import ByteScan.Proofs.RuleSet.Compiling
import ByteScan.Proofs.RuleSet.Numbering

/-!
# Consistent rule sets

The numbers in a compiled rule set name what it holds. External variables may be given other values
without any harm to that.
-/

namespace ByteScan

variable {rules after : RuleSet}

/-- All numbers of namespaces, rules and strings in a rule set are numbers of its own, its tables are
made for as many strings as it has, and its code does not begin after its end. -/
structure RuleSet.Consistent (rules : RuleSet) : Prop where
  inSpaces : ∀ rule ∈ rules.rules, rule.space < rules.spaces.size
  inStrings : ∀ rule ∈ rules.rules, ∀ string ∈ rule.strings, string < rules.strings.size
  inRules : ∀ string ∈ rules.strings, string.rule < rules.rules.size
  tables : rules.automaton.strings = rules.strings.size
  start : rules.codeStart < rules.code.length

/-! ## Compiled rule sets -/

theorem Compilation.Numbered.rule_cases {compilation : Compilation}
    {decls : List (String × RuleDecl)} (numbered : compilation.Numbered decls) {rule : Rule}
    (member : rule ∈ compilation.rules) :
    rule.space < compilation.spaces.size ∧
      ∀ string ∈ rule.strings, string < compilation.strings.size := by
  obtain ⟨number, within, same⟩ := Array.getElem_of_mem member
  have declared : number < decls.length := numbered.count ▸ within
  obtain ⟨found, scope, instructions, declares⟩ :=
    numbered.each number _ _ (List.getElem?_eq_getElem declared)
  have isFound : some rule = some found := by
    rw [← declares.listed, Array.getElem?_eq_getElem within, same]
  cases isFound
  refine ⟨(Array.getElem?_eq_some_iff.mp declares.inSpace).1, ?_⟩
  intro string own
  rw [declares.sameStrings] at own
  obtain ⟨entry, named, rfl⟩ := List.mem_map.mp own
  obtain ⟨definition, listed, _⟩ := declares.names entry named
  exact (Array.getElem?_eq_some_iff.mp listed).1

theorem Collection.consistent {collection : Collection}
    (compiled : collection.compile = .ok rules) : rules.Consistent := by
  obtain ⟨_, compilation, same, gives⟩ := compile_eq_ok compiled
  obtain ⟨numbered, _⟩ := (Compilation.numbered_start _).addRules same
  refine ⟨?_, ?_, ?_, ?_, ?_⟩
  · intro rule member
    rw [gives.sameRules] at member
    rw [gives.sameSpaces]
    exact (numbered.rule_cases member).1
  · intro rule member
    rw [gives.sameRules] at member
    rw [gives.sameStrings]
    exact (numbered.rule_cases member).2
  · rw [gives.sameStrings, gives.sameRules]
    exact numbered.owners
  · rw [(Automaton.of_ofSigns gives.built).2]
    rfl
  · rw [gives.start, gives.sameCode, encodeAll, List.flatMap_append, List.length_append]
    exact Nat.lt_of_lt_of_le (by decide) (Nat.le_add_left _ _)

/-! ## Rule sets with other values -/

namespace RuleSet

/-- One rule set becomes another where external variables are given values one after another. -/
inductive Redefines (rules : RuleSet) : RuleSet → Prop where
  | start : Redefines rules rules
  | define {before after : RuleSet} {name : String} {value : ExternalValue}
      (earlier : Redefines rules before) (defined : before.define name value = .ok after) :
      Redefines rules after
  | defineFromText {before after : RuleSet} {name text : String}
      (earlier : Redefines rules before) (defined : before.defineFromText name text = .ok after) :
      Redefines rules after

theorem exists_withExternals {externals : Except Error (List External)}
    (same : externals.map rules.withExternals = .ok after) :
    ∃ others, externals = .ok others ∧ after = rules.withExternals others := by
  cases externals with
  | error error => cases same
  | ok others =>
      cases same
      exact ⟨others, rfl, rfl⟩

theorem identifiers_of_redefineWith {name : String}
    {change : ExternalValue → Except Error ExternalValue} {externals changed : List External}
    (defined : External.redefineWith name change externals = .ok changed) :
    changed.map External.identifier = externals.map External.identifier := by
  induction externals generalizing changed with
  | nil => cases defined
  | cons external externals ih =>
      rw [External.redefineWith] at defined
      split at defined
      · split at defined
        · cases defined
          rfl
        · cases defined
      · split at defined
        · rename_i rest same
          cases defined
          rw [List.map_cons, List.map_cons, ih same]
        · cases defined

/-- Where variables are given values, only the values of the variables change. -/
theorem Redefines.exists_externals (redefines : rules.Redefines after) :
    ∃ externals, after = rules.withExternals externals ∧
      externals.map External.identifier = rules.externals.map External.identifier := by
  have step {before after : RuleSet} {name : String}
      {change : ExternalValue → Except Error ExternalValue}
      (earlier : ∃ externals, before = rules.withExternals externals ∧
        externals.map External.identifier = rules.externals.map External.identifier)
      (defined : (External.redefineWith name change before.externals).map before.withExternals =
        .ok after) :
      ∃ externals, after = rules.withExternals externals ∧
        externals.map External.identifier = rules.externals.map External.identifier := by
    obtain ⟨externals, rfl, same⟩ := earlier
    obtain ⟨others, changed, rfl⟩ := exists_withExternals defined
    exact ⟨others, rfl, (identifiers_of_redefineWith changed).trans same⟩
  induction redefines with
  | start => exact ⟨rules.externals, rfl, rfl⟩
  | define _ defined earlier => exact step earlier defined
  | defineFromText _ defined earlier => exact step earlier defined

theorem Consistent.withExternals (consistent : rules.Consistent) (externals : List External) :
    (rules.withExternals externals).Consistent :=
  ⟨consistent.inSpaces, consistent.inStrings, consistent.inRules, consistent.tables,
    consistent.start⟩

/-- Giving external variables values keeps a rule set consistent. -/
theorem Consistent.redefine (consistent : rules.Consistent) (redefines : rules.Redefines after) :
    after.Consistent := by
  obtain ⟨externals, rfl, _⟩ := redefines.exists_externals
  exact consistent.withExternals externals

end RuleSet

end ByteScan
