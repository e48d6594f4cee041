import ByteScan.Proofs.RuleSet.Selecting

/-!
# Compiling one namespace

While the rules of a collection are added one after another, those of one namespace are added to a part.
Adding a rule of another namespace changes the whole only, and adding a rule of the namespace does the
same to both, but for numbers. So the part compiles where the whole does: `compilation_only`.
-/

namespace ByteScan

/-! ## What is the same -/

/-- A rule of the whole and the rule that stands for it in the part, with their numbers. -/
structure RuleTwin (space : String) (selection : Selection) (whole part : Compilation)
    (entry twin : Rule × Nat) : Prop where
  listed : selection.rules[twin.2]? = some entry.2
  alike : entry.1.unnumbered = twin.1.unnumbered
  inWhole : whole.spaces[entry.1.space]? = some space
  inPart : part.spaces[twin.1.space]? = some space
  strings : List.Forall₂ (fun number index => selection.strings[index]? = some number)
    entry.1.strings twin.1.strings

structure RuleLeft (space : String) (selection : Selection) (whole : Compilation)
    (entry : Rule × Nat) : Prop where
  bound : entry.2 < whole.rules.size
  absent : entry.2 ∉ selection.rules
  elsewhere : ∃ other, whole.spaces[entry.1.space]? = some other ∧ other ≠ space

/-- The code of a rule and of the rule that stands for it in the part. -/
structure CodeTwin (selection : Selection) (instructions twins : List Instruction) : Prop where
  exists_code : ∃ code others number index,
    instructions = code ++ [.verdict (.ofNat number)] ∧ twins = others ++ [.verdict (.ofNat index)] ∧
      selection.rules[index]? = some number ∧ List.Forall₂ (InstructionTwin selection) code others

structure CodeLeft (selection : Selection) (whole : Compilation) (instructions : List Instruction) :
    Prop where
  exists_code : ∃ code number, instructions = code ++ [.verdict (.ofNat number)] ∧
    number < whole.rules.size ∧ number ∉ selection.rules

/-- The part is made of the rules of one namespace of the whole. -/
structure Selected (space : String) (selection : Selection) (whole part : Compilation) : Prop where
  externals : part.externals = whole.externals
  spacesWhole : whole.spaces.toList.Nodup
  spacesPart : part.spaces.toList.Nodup
  strings : StringsSelected selection.strings whole.strings part.strings
  count : selection.rules.length = part.rules.size
  bound : ∀ number ∈ selection.rules, number < whole.rules.size
  distinct : selection.rules.Nodup
  rules : Chosen (RuleTwin space selection whole part) (RuleLeft space selection whole)
    whole.rules.toList.zipIdx part.rules.toList.zipIdx
  code : Chosen (CodeTwin selection) (CodeLeft selection whole) whole.code.reverse part.code.reverse

/-! ## What grows -/

structure Selection.Grows (before after : Selection) : Prop where
  strings : before.strings <+: after.strings
  rules : before.rules <+: after.rules

section

variable {selection longer : Selection} (grows : selection.Grows longer)
include grows

theorem InstructionTwin.grow {instruction twin : Instruction}
    (same : InstructionTwin selection instruction twin) : InstructionTwin longer instruction twin := by
  cases same with
  | plain isPlain => exact .plain isPlain
  | found listed => exact .found (getElem?_mono grows.strings listed)
  | count listed => exact .count (getElem?_mono grows.strings listed)
  | foundAt listed => exact .foundAt (getElem?_mono grows.strings listed)
  | foundIn listed => exact .foundIn (getElem?_mono grows.strings listed)
  | ofThem listed minimum => exact .ofThem (getElem?_mono grows.rules listed) minimum
  | rule listed => exact .rule (getElem?_mono grows.rules listed)

theorem CodeTwin.grow {instructions twins : List Instruction}
    (same : CodeTwin selection instructions twins) : CodeTwin longer instructions twins := by
  obtain ⟨code, others, number, index, isCode, isOther, listed, alike⟩ := same.exists_code
  exact ⟨code, others, number, index, isCode, isOther, getElem?_mono grows.rules listed,
    alike.imp fun _ _ isTwin => isTwin.grow grows⟩

variable {space : String} {whole part whole' part' : Compilation}
  (growing : whole.Grows whole') (growing' : part.Grows part')
include growing growing'

theorem RuleTwin.grow {entry twin : Rule × Nat} (same : RuleTwin space selection whole part entry twin) :
    RuleTwin space longer whole' part' entry twin where
  listed := getElem?_mono grows.rules same.listed
  alike := same.alike
  inWhole := growing.spaces _ _ same.inWhole
  inPart := growing'.spaces _ _ same.inPart
  strings := same.strings.imp fun _ _ => getElem?_mono grows.strings

end

section

variable {selection longer : Selection} {whole whole' : Compilation}
  (later : ∀ number ∈ longer.rules, number ∈ selection.rules ∨ whole.rules.size ≤ number)
  (counts : whole.rules.size ≤ whole'.rules.size)
include later counts

theorem CodeLeft.grow {instructions : List Instruction} (left : CodeLeft selection whole instructions) :
    CodeLeft longer whole' instructions := by
  obtain ⟨code, number, isCode, bound, absent⟩ := left.exists_code
  refine ⟨code, number, isCode, Nat.lt_of_lt_of_le bound counts, fun member => ?_⟩
  rcases later number member with before | beyond
  · exact absent before
  · exact Nat.not_lt.mpr beyond bound

theorem RuleLeft.grow {space : String} {entry : Rule × Nat} (left : RuleLeft space selection whole entry)
    (growing : whole.Grows whole') : RuleLeft space longer whole' entry := by
  refine ⟨Nat.lt_of_lt_of_le left.bound counts, fun member => ?_, ?_⟩
  · rcases later entry.2 member with before | beyond
    · exact left.absent before
    · exact Nat.not_lt.mpr beyond left.bound
  · obtain ⟨other, isSpace, different⟩ := left.elsewhere
    exact ⟨other, growing.spaces _ _ isSpace, different⟩

end

namespace Selected

variable {space : String} {selection : Selection} {whole part whole' part' : Compilation}
  (selected : Selected space selection whole part)
include selected

theorem enter (growing : whole.Grows whole') (growing' : part.Grows part')
    (distinct : whole'.spaces.toList.Nodup) (distinct' : part'.spaces.toList.Nodup)
    (rules : whole'.rules = whole.rules) (rules' : part'.rules = part.rules)
    (strings : whole'.strings = whole.strings) (strings' : part'.strings = part.strings)
    (code : whole'.code = whole.code) (code' : part'.code = part.code) :
    Selected space selection whole' part' where
  externals := by rw [growing.externals, growing'.externals, selected.externals]
  spacesWhole := distinct
  spacesPart := distinct'
  strings := by
    rw [strings, strings']
    exact selected.strings
  count := rules' ▸ selected.count
  bound := rules ▸ selected.bound
  distinct := selected.distinct
  rules := by
    rw [rules, rules']
    refine selected.rules.imp ?_ ?_
    · exact fun _ _ same => same.grow ⟨List.prefix_rfl, List.prefix_rfl⟩ growing growing'
    · exact fun _ left => left.grow (fun _ => .inl) (by rw [rules]) growing
  code := by
    rw [code, code']
    refine selected.code.imp (fun _ _ => id) ?_
    exact fun _ left => left.grow (fun _ => .inl) (by rw [rules])

theorem ruleNumber?_rel {number index : Nat} (inWhole : whole.spaces[number]? = some space)
    (inPart : part.spaces[index]? = some space) (name : String) :
    Option.Rel (fun number index => selection.rules[index]? = some number)
      (whole.ruleNumber? number name) (part.ruleNumber? index name) := by
  have found : Option.Rel (RuleTwin space selection whole part)
      (whole.rules.toList.zipIdx.find? fun entry =>
        entry.1.space == number && entry.1.identifier == name)
      (part.rules.toList.zipIdx.find? fun entry =>
        entry.1.space == index && entry.1.identifier == name) := by
    refine selected.rules.find? ?_ ?_
    · intro entry twin isTwin
      have sameSpace : entry.1.space = number :=
        (Compilation.space_eq_iff selected.spacesWhole isTwin.inWhole inWhole).mpr rfl
      have sameIndex : twin.1.space = index :=
        (Compilation.space_eq_iff selected.spacesPart isTwin.inPart inPart).mpr rfl
      have sameName : entry.1.unnumbered.identifier = twin.1.unnumbered.identifier :=
        congrArg Rule.identifier isTwin.alike
      change (_ && entry.1.unnumbered.identifier == name) = (_ && twin.1.unnumbered.identifier == name)
      rw [sameSpace, sameIndex, sameName, BEq.rfl, BEq.rfl]
    · intro entry isLeft
      obtain ⟨other, isSpace, different⟩ := isLeft.elsewhere
      have apart : entry.1.space ≠ number := fun same =>
        different ((Compilation.space_eq_iff selected.spacesWhole isSpace inWhole).mp same)
      rw [beq_eq_false_iff_ne.mpr apart, Bool.false_and]
  have asFind (rules : Array Rule) (space : Nat) :
      rules.findIdx? (fun rule => rule.space == space && rule.identifier == name) =
        (rules.toList.zipIdx.find? fun entry =>
          entry.1.space == space && entry.1.identifier == name).map Prod.snd :=
    (List.findIdx?_toArray _ rules.toList).trans List.findIdx?_eq_fst_find?_zipIdx
  rw [Compilation.ruleNumber?, Compilation.ruleNumber?, asFind, asFind]
  revert found
  generalize whole.rules.toList.zipIdx.find? _ = first
  generalize part.rules.toList.zipIdx.find? _ = second
  intro found
  cases found with
  | some isTwin => exact .some isTwin.listed
  | none => exact .none

end Selected

namespace Selected

open Compilation

variable {space : String} {selection : Selection} {whole part middle : Compilation} {number : Nat}
  {decl : RuleDecl} {strings : List (String × Nat)} {instructions : List Instruction}
  (selected : Selected space selection whole part)
  (adds : Adds whole number decl strings middle instructions)
include selected adds

theorem pass {other : String} (inWhole : whole.spaces[number]? = some other) (different : other ≠ space) :
    Selected space selection (withRule middle number decl strings instructions) part := by
  obtain ⟨grows, spaces, rules, codes, _⟩ := adds.rest
  obtain ⟨code, isCode, same⟩ := bind_eq_ok adds.compiled
  have size : whole.rules.size < (withRule middle number decl strings instructions).rules.size := by
    rw [size_rules_withRule, rules]
    exact Nat.lt_succ_self _
  have absent : whole.rules.size ∉ selection.rules := fun member =>
    Nat.lt_irrefl _ (selected.bound _ member)
  constructor
  case externals => exact selected.externals.trans grows.externals.symm
  case spacesWhole =>
    rw [spaces_withRule, spaces]
    exact selected.spacesWhole
  case spacesPart => exact selected.spacesPart
  case strings =>
    rw [strings_withRule]
    exact addStrings_pass adds.added selected.strings
  case count => exact selected.count
  case bound => exact fun earlier member => Nat.lt_trans (selected.bound earlier member) size
  case distinct => exact selected.distinct
  case rules =>
    have earlier := selected.rules.imp
      (fun _ _ same => same.grow ⟨List.prefix_rfl, List.prefix_rfl⟩ grows (.refl part))
      (fun _ left => left.grow (fun _ => .inl) size.le grows)
    have left : RuleLeft space selection (withRule middle number decl strings instructions)
        (⟨decl.name, number, decl.isPrivate, decl.isGlobal, strings.map Prod.snd, decl.tags⟩,
          whole.rules.size) :=
      ⟨size, absent, other, grows.spaces _ _ inWhole, different⟩
    have added := earlier.append (.passed left .nil)
    rw [List.append_nil] at added
    rw [rules_withRule, rules]
    exact added
  case code =>
    have earlier := selected.code.imp (fun _ _ => id)
      (fun _ left => left.grow (fun _ => .inl) size.le)
    have added := earlier.append
      (.passed ⟨code, whole.rules.size, (Except.ok.inj same).symm, size, absent⟩ .nil)
    rw [List.append_nil] at added
    rw [code_withRule, codes]
    exact added

theorem keep (inWhole : whole.spaces[number]? = some space) {index : Nat}
    (inPart : part.spaces[index]? = some space) :
    ∃ longer entries middle' instructions',
      Adds part index decl entries middle' instructions' ∧
        Selected space longer (withRule middle number decl strings instructions)
          (withRule middle' index decl entries instructions') := by
  obtain ⟨grows, spaces, rules, codes, externals⟩ := adds.rest
  obtain ⟨strings', entries, middle', added', stringsGrow, selects, same⟩ :=
    addStrings_twin adds.added selected.strings .nil part.rules.size
  obtain ⟨growing', _, rules', _⟩ := addStrings_spec added' nofun
  let longer : Selection := ⟨strings', selection.rules ++ [whole.rules.size]⟩
  have growing : selection.Grows longer := ⟨stringsGrow, List.prefix_append _ _⟩
  have isLast : longer.rules[part.rules.size]? = some whole.rules.size := by
    rw [← selected.count]
    exact List.getElem?_concat_length
  have names := selected.ruleNumber?_rel inWhole inPart
  have isNew' : ¬(part.ruleNumber? index decl.name).isSome = true := by
    rw [← isSome_eq (names decl.name)]
    exact adds.isNew
  have scopes : ScopeTwin longer
      ⟨decl.name, whole.rules.size, strings, middle.ruleNumber? number, middle.externals⟩
      ⟨decl.name, part.rules.size, entries, middle'.ruleNumber? index, middle'.externals⟩ := by
    constructor
    case owner => exact isLast
    case strings => exact same
    case earlier =>
      intro name
      simp only [ruleNumber?, rules, rules']
      exact rel_imp (names name) fun _ _ => getElem?_mono growing.rules
    case externals => exact growing'.externals.trans (selected.externals.trans externals.symm)
  obtain ⟨code, isCode, isWhole⟩ := bind_eq_ok adds.compiled
  obtain ⟨others, isOther, alike⟩ := scopes.code isCode
  have adds' : Adds part index decl entries middle' (others ++ [.verdict (.ofNat part.rules.size)]) :=
    ⟨isNew', added', by rw [Condition.ruleCode, isOther]; rfl⟩
  obtain ⟨grows', spaces', _, codes', externals'⟩ := adds'.rest
  refine ⟨longer, entries, middle', _, adds', ?_⟩
  have size : (withRule middle number decl strings instructions).rules.size = whole.rules.size + 1 := by
    rw [size_rules_withRule, rules]
  have larger : whole.rules.size ≤
      (withRule middle number decl strings instructions).rules.size := by
    rw [size]
    exact Nat.le_succ _
  have later (earlier : Nat) (member : earlier ∈ longer.rules) :
      earlier ∈ selection.rules ∨ whole.rules.size ≤ earlier := by
    rcases List.mem_append.mp member with before | isNew
    · exact .inl before
    · exact .inr (List.mem_singleton.mp isNew).ge
  constructor
  case externals => exact externals'.trans (selected.externals.trans externals.symm)
  case spacesWhole =>
    rw [spaces_withRule, spaces]
    exact selected.spacesWhole
  case spacesPart =>
    rw [spaces_withRule, spaces']
    exact selected.spacesPart
  case strings =>
    rw [strings_withRule, strings_withRule]
    exact selects
  case count =>
    rw [size_rules_withRule, rules', ← selected.count, List.length_append, List.length_singleton]
  case bound =>
    intro earlier member
    rw [size]
    rcases List.mem_append.mp member with before | isNew
    · exact Nat.lt_succ_of_lt (selected.bound earlier before)
    · exact Nat.lt_succ_of_le (List.mem_singleton.mp isNew).le
  case distinct =>
    have absent : whole.rules.size ∉ selection.rules := fun member =>
      Nat.lt_irrefl _ (selected.bound _ member)
    rw [List.nodup_append]
    refine ⟨selected.distinct, List.nodup_singleton _, ?_⟩
    rintro first member _ isLast rfl
    exact absent (List.mem_singleton.mp isLast ▸ member)
  case rules =>
    have earlier := selected.rules.imp (fun _ _ same => same.grow growing grows grows')
      (fun _ left => left.grow later larger grows)
    have twin : RuleTwin space longer (withRule middle number decl strings instructions)
        (withRule middle' index decl entries (others ++ [.verdict (.ofNat part.rules.size)]))
        (⟨decl.name, number, decl.isPrivate, decl.isGlobal, strings.map Prod.snd, decl.tags⟩,
          whole.rules.size)
        (⟨decl.name, index, decl.isPrivate, decl.isGlobal, entries.map Prod.snd, decl.tags⟩,
          part.rules.size) := by
      refine ⟨isLast, rfl, grows.spaces _ _ inWhole, grows'.spaces _ _ inPart, ?_⟩
      rw [List.forall₂_map_left_iff, List.forall₂_map_right_iff]
      exact same.imp fun _ _ => And.right
    have added := earlier.append (.kept twin .nil)
    rw [rules_withRule, rules_withRule, rules, rules']
    exact added
  case code =>
    have earlier := selected.code.imp (fun _ _ same => same.grow growing)
      (fun _ left => left.grow later larger)
    have added := earlier.append (.kept ⟨code, others, whole.rules.size, part.rules.size,
      (Except.ok.inj isWhole).symm, rfl, isLast, alike⟩ .nil)
    rw [code_withRule, code_withRule, codes, codes']
    exact added

end Selected

/-! ## The whole collection -/

namespace Compilation

theorem selected_start (space : String) (externals : List String) :
    Selected space ⟨[], []⟩ ⟨#[], #[], #[], [], externals⟩ ⟨#[], #[], #[], [], externals⟩ :=
  ⟨rfl, List.nodup_nil, List.nodup_nil, .start, rfl, nofun, List.nodup_nil, .nil, .nil⟩

end Compilation

open Compilation in
/-- Adding rules goes on in the part as it does in the whole. -/
theorem Selected.addRule {space : String} {selection : Selection} {whole part after : Compilation}
    (selected : Selected space selection whole part) {other : String} {decl : RuleDecl}
    (added : whole.addRule other decl = .ok after) :
    (other ≠ space → Selected space selection after part) ∧
      (other = space → ∃ longer after', part.addRule other decl = .ok after' ∧
        Selected space longer after after') := by
  obtain ⟨strings, middle, instructions, adds, rfl⟩ := addRule_eq_ok added
  obtain ⟨growing, inWhole, distinct, sameRules, sameStrings, sameCode⟩ :=
    enter_spec whole other selected.spacesWhole
  constructor
  · intro different
    have entered := selected.enter growing (.refl part) distinct selected.spacesPart sameRules rfl
      sameStrings rfl sameCode rfl
    exact entered.pass adds inWhole different
  · rintro rfl
    obtain ⟨growing', inPart, distinct', sameRules', sameStrings', sameCode'⟩ :=
      enter_spec part other selected.spacesPart
    have entered := selected.enter growing growing' distinct distinct' sameRules sameRules'
      sameStrings sameStrings' sameCode sameCode'
    obtain ⟨longer, entries, middle', instructions', adds', selected'⟩ :=
      entered.keep adds inWhole inPart
    exact ⟨longer, _, adds'.addRule, selected'⟩

theorem Selected.addRules {space : String} {selection : Selection} {whole part after : Compilation}
    (selected : Selected space selection whole part) {decls : List (String × RuleDecl)}
    (added : Compilation.addRules whole decls = .ok after) :
    ∃ longer after',
      Compilation.addRules part (decls.filter fun entry => entry.1 == space) = .ok after' ∧
        Selected space longer after after' := by
  induction decls generalizing selection whole part with
  | nil =>
      cases added
      exact ⟨selection, part, rfl, selected⟩
  | cons entry decls ih =>
      obtain ⟨other, decl⟩ := entry
      rw [Compilation.addRules] at added
      split at added
      · rename_i middle isMiddle
        obtain ⟨passes, keeps⟩ := selected.addRule isMiddle
        by_cases same : other = space
        · obtain ⟨longer, middle', isMiddle', selected'⟩ := keeps same
          have isKept : (other == space) = true := beq_iff_eq.mpr same
          obtain ⟨longer', after', added', selected''⟩ := ih selected' added
          refine ⟨longer', after', ?_, selected''⟩
          simp only [List.filter_cons, isKept, if_true, Compilation.addRules, isMiddle', added']
        · have isLeft : (other == space) = false := beq_eq_false_iff_ne.mpr same
          obtain ⟨longer', after', added', selected''⟩ := ih (passes same) added
          refine ⟨longer', after', ?_, selected''⟩
          simp only [List.filter_cons, isLeft, Bool.false_eq_true, if_false, added']
      · cases added

/-- Where a collection compiles up to its automaton, so do the rules of one of its namespaces. -/
theorem Collection.compilation_only {collection : Collection} {whole : Compilation}
    (compiles : collection.compilation = .ok whole) (space : String) :
    ∃ selection part, (collection.only space).compilation = .ok part ∧
      Selected space selection whole part :=
  (Compilation.selected_start space _).addRules compiles

end ByteScan
