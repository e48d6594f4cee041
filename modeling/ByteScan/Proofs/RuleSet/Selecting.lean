import ByteScan.Proofs.Automaton.Sharing
import ByteScan.Proofs.RuleSet.Compiling
import ByteScan.Proofs.RuleSet.Numbering
import ByteScan.Proofs.Success

/-!
# One namespace of a collection

`Collection.only` keeps the rules of one namespace. Compiling them does what compiling the whole
collection does, with other numbers: `Selected` says which strings and rules of the whole are kept and
what is the same about them.
-/

namespace ByteScan

/-- The collection with the rules of one namespace only. -/
def Collection.only (collection : Collection) (space : String) : Collection :=
  { collection with rules := collection.rules.filter fun entry => entry.1 == space }

def StringDef.unnumbered (string : StringDef) : StringDef := { string with rule := 0 }

theorem StringDef.ofString_unnumbered (string : StringDef) :
    Atom.ofString string.unnumbered = Atom.ofString string := by
  obtain ⟨identifier, rule, modifiers, pattern⟩ := string
  have same : Atom.candidates (unnumbered ⟨identifier, rule, modifiers, pattern⟩) =
      Atom.candidates ⟨identifier, rule, modifiers, pattern⟩ := by
    cases pattern <;> rfl
  rw [Atom.ofString, same]
  rfl

def Rule.unnumbered (rule : Rule) : Rule := { rule with space := 0, strings := [] }

/-! ## Strings -/

theorem signsOf_concat (strings : List StringDef) (string : StringDef) :
    signsOf (strings ++ [string]) = signsOf strings ++
      (Atom.ofString string).map fun atom => ⟨atom.bytes, atom.backtrack, strings.length⟩ := by
  rw [signsOf, List.zipIdx_append, List.flatMap_append, Nat.zero_add]
  exact congrArg _ (List.flatMap_singleton ..)

/-- Some strings of the whole, with these numbers there, are those of the part in the same order. -/
structure StringsSelected (selected : List Nat) (whole part : Array StringDef) : Prop where
  count : selected.length = part.size
  bound : ∀ number ∈ selected, number < whole.size
  distinct : selected.Nodup
  alike : ∀ (index number : Nat), selected[index]? = some number →
    ∃ string twin, whole[number]? = some string ∧ part[index]? = some twin ∧
      string.unnumbered = twin.unnumbered
  signs : signsOf part.toList = (signsOf whole.toList).filterMap (Sign.select? selected)

namespace StringsSelected

variable {selected : List Nat} {whole part : Array StringDef} {string twin : StringDef}

theorem start : StringsSelected [] #[] #[] := ⟨rfl, nofun, List.nodup_nil, nofun, rfl⟩

theorem signs_more (selected : List Nat) (whole : Array StringDef) (more : List Nat)
    (later : ∀ number ∈ more, whole.size ≤ number) :
    (signsOf whole.toList).filterMap (Sign.select? (selected ++ more)) =
      (signsOf whole.toList).filterMap (Sign.select? selected) := by
  refine List.filterMap_congr ?_
  intro sign member
  have within := string_lt_of_mem_signsOf member
  rw [Array.length_toList] at within
  have absent : more.idxOf? sign.string = none := by
    rw [List.idxOf?_eq_none_iff]
    exact fun listed => Nat.not_lt.mpr (later _ listed) within
  rw [Sign.select?, Sign.select?, List.idxOf?, List.findIdx?_append]
  rw [List.idxOf?] at absent
  rw [absent, Option.map_none, Option.or_none]

variable (strings : StringsSelected selected whole part)
include strings

theorem not_mem : whole.size ∉ selected := fun member =>
  Nat.lt_irrefl _ (strings.bound _ member)

theorem push (alike : string.unnumbered = twin.unnumbered) :
    StringsSelected (selected ++ [whole.size]) (whole.push string) (part.push twin) where
  count := by rw [List.length_append, List.length_singleton, strings.count, Array.size_push]
  bound := by
    intro number member
    rw [Array.size_push]
    rcases List.mem_append.mp member with earlier | isLast
    · exact Nat.lt_succ_of_lt (strings.bound number earlier)
    · rw [List.mem_singleton.mp isLast]
      exact Nat.lt_succ_self _
  distinct := by
    rw [← List.concat_eq_append]
    exact strings.distinct.concat strings.not_mem
  alike := by
    intro index number listed
    rcases Nat.lt_trichotomy index selected.length with earlier | isLast | beyond
    · rw [List.getElem?_append_left earlier] at listed
      obtain ⟨first, second, isFirst, isSecond, same⟩ := strings.alike index number listed
      exact ⟨first, second, Compilation.getElem?_push_of_some string isFirst,
        Compilation.getElem?_push_of_some twin isSecond, same⟩
    · subst isLast
      rw [List.getElem?_concat_length] at listed
      cases listed
      rw [strings.count]
      exact ⟨string, twin, Array.getElem?_push_size, Array.getElem?_push_size, alike⟩
    · rw [List.getElem?_eq_none (by rw [List.length_append, List.length_singleton]; omega)] at listed
      cases listed
  signs := by
    have atoms : Atom.ofString twin = Atom.ofString string := by
      rw [← twin.ofString_unnumbered, ← alike, string.ofString_unnumbered]
    have isLast : (selected ++ [whole.size]).idxOf? whole.size = some selected.length := by
      have absent := List.idxOf?_eq_none_iff.mpr strings.not_mem
      rw [List.idxOf?] at absent ⊢
      rw [List.findIdx?_append, absent]
      simp
    have added (atoms : List Atom) :
        (atoms.map fun atom => (⟨atom.bytes, atom.backtrack, whole.size⟩ : Sign)).filterMap
            (Sign.select? (selected ++ [whole.size])) =
          atoms.map fun atom => ⟨atom.bytes, atom.backtrack, part.size⟩ := by
      rw [List.filterMap_map, ← List.filterMap_eq_map]
      congr 1
      funext atom
      simp only [Function.comp_apply, Sign.select?, isLast, strings.count, Option.map_some]
    have earlier := signs_more selected whole [whole.size] fun number member =>
      (List.mem_singleton.mp member).ge
    rw [Array.toList_push, Array.toList_push, signsOf_concat, signsOf_concat, List.filterMap_append,
      Array.length_toList, Array.length_toList, added, earlier, strings.signs, atoms]

theorem pass (string : StringDef) : StringsSelected selected (whole.push string) part where
  count := strings.count
  bound := by
    intro number member
    rw [Array.size_push]
    exact Nat.lt_succ_of_lt (strings.bound number member)
  distinct := strings.distinct
  alike := by
    intro index number listed
    obtain ⟨first, second, isFirst, isSecond, same⟩ := strings.alike index number listed
    exact ⟨first, second, Compilation.getElem?_push_of_some string isFirst, isSecond, same⟩
  signs := by
    have absent := List.idxOf?_eq_none_iff.mpr strings.not_mem
    have omitted (atoms : List Atom) :
        (atoms.map fun atom => (⟨atom.bytes, atom.backtrack, whole.size⟩ : Sign)).filterMap
          (Sign.select? selected) = [] := by
      refine List.filterMap_eq_nil_iff.mpr ?_
      intro sign member
      obtain ⟨atom, _, rfl⟩ := List.mem_map.mp member
      simp only [Sign.select?, absent, Option.map_none]
    rw [Array.toList_push, signsOf_concat, List.filterMap_append, Array.length_toList, omitted,
      List.append_nil, strings.signs]

end StringsSelected

/-! ## The strings of a rule -/

def NamesSame (selected : List Nat) (entry twin : String × Nat) : Prop :=
  entry.1 = twin.1 ∧ selected[twin.2]? = some entry.2

theorem getElem?_mono {selected longer : List Nat} (grows : selected <+: longer)
    {index number : Nat} (listed : selected[index]? = some number) : longer[index]? = some number := by
  obtain ⟨more, rfl⟩ := grows
  rw [List.getElem?_append_left (List.getElem?_eq_some_iff.mp listed).1, listed]

theorem NamesSame.grow {selected longer : List Nat} {entry twin : String × Nat}
    (same : NamesSame selected entry twin) (grows : selected <+: longer) :
    NamesSame longer entry twin :=
  ⟨same.1, getElem?_mono grows same.2⟩

theorem lookup_rel {selected : List Nat} {entries twins : List (String × Nat)}
    (same : List.Forall₂ (NamesSame selected) entries twins) (name : String) :
    Option.Rel (fun number index => selected[index]? = some number) (entries.lookup name)
      (twins.lookup name) := by
  induction same with
  | nil => exact .none
  | @cons entry twin _ _ isSame _ ih =>
      obtain ⟨identifier, number⟩ := entry
      obtain ⟨other, index⟩ := twin
      obtain ⟨rfl, listed⟩ := isSame
      rw [List.lookup_cons, List.lookup_cons]
      cases name == identifier with
      | true => exact .some listed
      | false => exact ih

theorem isSome_eq {relation : α → β → Prop} {item : Option α} {other : Option β}
    (related : Option.Rel relation item other) : item.isSome = other.isSome := by
  cases related with
  | some _ => rfl
  | none => rfl

theorem exists_of_rel {relation : α → β → Prop} {item : α} {other : Option β}
    (related : Option.Rel relation (some item) other) :
    ∃ twin, other = some twin ∧ relation item twin := by
  cases related with
  | some holds => exact ⟨_, rfl, holds⟩

theorem rel_imp {relation weaker : α → β → Prop} {item : Option α} {other : Option β}
    (related : Option.Rel relation item other)
    (implies : ∀ item other, relation item other → weaker item other) :
    Option.Rel weaker item other := by
  cases related with
  | some holds => exact .some (implies _ _ holds)
  | none => exact .none

theorem StringDecl.compile_twin {decl : StringDecl} {rule : String} {number : Nat}
    {string : StringDef} (compiled : decl.compile rule number = .ok string) (other : Nat) :
    ∃ twin, decl.compile rule other = .ok twin ∧ string.unnumbered = twin.unnumbered := by
  simp only [StringDecl.compile] at compiled ⊢
  split at compiled
  · split at compiled
    · cases compiled
    · rename_i filled
      cases compiled
      exact ⟨_, if_neg filled, rfl⟩
  · split at compiled
    · cases compiled
    · cases compiled
    · cases compiled
      exact ⟨_, rfl, rfl⟩
  · split at compiled
    · cases compiled
    · rename_i filled
      split at compiled
      · cases compiled
      · rename_i regex parsed
        cases compiled
        exact ⟨_, if_neg filled, rfl⟩

namespace Compilation

theorem addStrings_pass {rule : String} {number : Nat} {decls : List StringDecl}
    {own strings : List (String × Nat)} {whole after : Compilation} {selected : List Nat}
    {part : Array StringDef}
    (added : addStrings rule number own whole decls = .ok (strings, after))
    (selects : StringsSelected selected whole.strings part) :
    StringsSelected selected after.strings part := by
  induction decls generalizing own whole with
  | nil =>
      cases added
      exact selects
  | cons decl decls ih =>
      rw [addStrings] at added
      split at added
      · cases added
      · split at added
        · cases added
        · exact ih added (selects.pass _)

/-- The strings of a rule that is selected are added to the whole and to the part. -/
theorem addStrings_twin {rule : String} {number : Nat} {decls : List StringDecl}
    {own strings : List (String × Nat)} {whole after : Compilation} {selected : List Nat}
    {part : Compilation} {twins : List (String × Nat)}
    (added : addStrings rule number own whole decls = .ok (strings, after))
    (selects : StringsSelected selected whole.strings part.strings)
    (same : List.Forall₂ (NamesSame selected) own twins) (other : Nat) :
    ∃ longer entries after', addStrings rule other twins part decls = .ok (entries, after') ∧
      selected <+: longer ∧ StringsSelected longer after.strings after'.strings ∧
      List.Forall₂ (NamesSame longer) strings entries := by
  induction decls generalizing own whole selected part twins with
  | nil =>
      cases added
      exact ⟨selected, twins.reverse, part, rfl, List.prefix_rfl, selects,
        List.rel_reverse same⟩
  | cons decl decls ih =>
      rw [addStrings] at added
      split at added
      · cases added
      · rename_i isNew
        split at added
        · cases added
        · rename_i string compiled
          obtain ⟨twin, compiled', alike⟩ := StringDecl.compile_twin compiled other
          have grows : selected <+: selected ++ [whole.strings.size] := List.prefix_append _ _
          have isSame : NamesSame (selected ++ [whole.strings.size])
              (decl.identifier, whole.strings.size) (decl.identifier, part.strings.size) := by
            refine ⟨rfl, ?_⟩
            rw [← selects.count]
            exact List.getElem?_concat_length
          have pushed : StringsSelected (selected ++ [whole.strings.size]) (whole.strings.push string)
              ({ part with strings := part.strings.push twin } : Compilation).strings :=
            selects.push alike
          obtain ⟨longer, entries, after', adding, grows', selects', same'⟩ :=
            ih added pushed (.cons isSame (same.imp fun _ _ isSame => isSame.grow grows))
          refine ⟨longer, entries, after', ?_, grows.trans grows', selects', same'⟩
          have unused : ¬(twins.lookup decl.identifier).isSome = true := by
            rw [← isSome_eq (lookup_rel same decl.identifier)]
            exact isNew
          rw [addStrings, if_neg unused, compiled']
          exact adding

end Compilation

/-! ## Conditions -/

/-- The numbers that the strings and rules that are selected have in the whole. -/
structure Selection where
  strings : List Nat
  rules : List Nat

/-- What an instruction does that stands in the code of a condition does not depend on numbers of
strings and rules. -/
def Instruction.isPlain : Instruction → Bool
  | .found _ | .count _ | .foundAt _ | .foundIn _ | .ofThem _ _ | .rule _ | .halt | .verdict _ => false
  | _ => true

/-- Two instructions that differ in the numbers of strings and rules only: the first one has those of the
whole and the second one those of the part. -/
inductive InstructionTwin (selection : Selection) : Instruction → Instruction → Prop where
  | plain {instruction : Instruction} (isPlain : instruction.isPlain = true) :
      InstructionTwin selection instruction instruction
  | found {number index : Nat} (listed : selection.strings[index]? = some number) :
      InstructionTwin selection (.found (.ofNat number)) (.found (.ofNat index))
  | count {number index : Nat} (listed : selection.strings[index]? = some number) :
      InstructionTwin selection (.count (.ofNat number)) (.count (.ofNat index))
  | foundAt {number index : Nat} (listed : selection.strings[index]? = some number) :
      InstructionTwin selection (.foundAt (.ofNat number)) (.foundAt (.ofNat index))
  | foundIn {number index : Nat} (listed : selection.strings[index]? = some number) :
      InstructionTwin selection (.foundIn (.ofNat number)) (.foundIn (.ofNat index))
  | ofThem {number index : Nat} (listed : selection.rules[index]? = some number) (minimum : UInt32) :
      InstructionTwin selection (.ofThem (.ofNat number) minimum) (.ofThem (.ofNat index) minimum)
  | rule {number index : Nat} (listed : selection.rules[index]? = some number) :
      InstructionTwin selection (.rule (.ofNat number)) (.rule (.ofNat index))

/-- The same names mean something in two scopes, and the second one has the numbers of the part. -/
structure ScopeTwin (selection : Selection) (whole part : Scope) : Prop where
  owner : selection.rules[part.number]? = some whole.number
  strings : List.Forall₂ (NamesSame selection.strings) whole.strings part.strings
  earlier : ∀ name, Option.Rel (fun number index => selection.rules[index]? = some number)
    (whole.earlierRule? name) (part.earlierRule? name)
  externals : part.externals = whole.externals

namespace ScopeTwin

variable {selection : Selection} {whole part : Scope} (twins : ScopeTwin selection whole part)
include twins

theorem string {name : String} {number : UInt32} (found : whole.string name = .ok number) :
    ∃ place index : Nat, selection.strings[index]? = some place ∧ number = .ofNat place ∧
      part.string name = .ok (.ofNat index) := by
  have related := lookup_rel twins.strings name
  rw [Scope.string] at found ⊢
  cases inWhole : whole.strings.lookup name with
  | none =>
      rw [inWhole] at found
      cases found
  | some place =>
      rw [inWhole] at found related
      cases found
      obtain ⟨index, inPart, listed⟩ := exists_of_rel related
      exact ⟨place, index, listed, rfl, by rw [inPart]⟩

theorem earlierRule {name : String} {number : UInt32} (found : whole.earlierRule name = .ok number) :
    ∃ place index : Nat, selection.rules[index]? = some place ∧ number = .ofNat place ∧
      part.earlierRule name = .ok (.ofNat index) := by
  have related := twins.earlier name
  rw [Scope.earlierRule] at found ⊢
  cases inWhole : whole.earlierRule? name with
  | none =>
      rw [inWhole] at found
      cases found
  | some place =>
      rw [inWhole] at found related
      cases found
      obtain ⟨index, inPart, listed⟩ := exists_of_rel related
      exact ⟨place, index, listed, rfl, by rw [inPart]⟩

theorem external {name : String} {index : UInt32} (found : whole.external name = .ok index) :
    part.external name = .ok index := by
  rw [Scope.external] at found ⊢
  rw [twins.externals]
  split at found
  · exact found
  · cases found

theorem ofThem {minimum : UInt32} {instructions : List Instruction}
    (compiled : whole.ofThem minimum = .ok instructions) :
    ∃ others, part.ofThem minimum = .ok others ∧
      List.Forall₂ (InstructionTwin selection) instructions others := by
  rw [Scope.ofThem] at compiled
  split at compiled
  · cases compiled
  · rename_i filled
    cases compiled
    refine ⟨_, ?_, .cons (.ofThem twins.owner minimum) .nil⟩
    rw [Scope.ofThem, if_neg]
    rwa [List.isEmpty_iff_length_eq_zero, ← twins.strings.length_eq,
      ← List.isEmpty_iff_length_eq_zero]

/-- In scopes that differ in numbers only, a condition is compiled to code that differs in them only. -/
theorem code {condition : Condition} {instructions : List Instruction}
    (compiled : condition.code whole = .ok instructions) :
    ∃ others, condition.code part = .ok others ∧
      List.Forall₂ (InstructionTwin selection) instructions others := by
  induction condition generalizing instructions with
  | truth value | integer value | float value | text value | fileSize | entryPoint =>
      cases compiled
      exact ⟨_, rfl, .cons (.plain rfl) .nil⟩
  | found name | count name =>
      obtain ⟨string, isString, same⟩ := bind_eq_ok compiled
      cases same
      obtain ⟨place, index, listed, rfl, isString'⟩ := twins.string isString
      simp only [Condition.code, isString', bind, Except.bind]
      exact ⟨_, rfl, .cons (by constructor; exact listed) .nil⟩
  | foundAt name address ih =>
      obtain ⟨string, isString, rest⟩ := bind_eq_ok compiled
      obtain ⟨code, isCode, same⟩ := bind_eq_ok rest
      cases same
      obtain ⟨place, index, listed, rfl, isString'⟩ := twins.string isString
      obtain ⟨code', isCode', alike⟩ := ih isCode
      simp only [Condition.code, isString', isCode', bind, Except.bind]
      exact ⟨_, rfl, List.rel_append alike (.cons (.foundAt listed) .nil)⟩
  | foundIn name low high ihLow ihHigh =>
      obtain ⟨string, isString, rest⟩ := bind_eq_ok compiled
      obtain ⟨lowCode, isLow, rest⟩ := bind_eq_ok rest
      obtain ⟨highCode, isHigh, same⟩ := bind_eq_ok rest
      cases same
      obtain ⟨place, index, listed, rfl, isString'⟩ := twins.string isString
      obtain ⟨lowCode', isLow', lowAlike⟩ := ihLow isLow
      obtain ⟨highCode', isHigh', highAlike⟩ := ihHigh isHigh
      simp only [Condition.code, isString', isLow', isHigh', bind, Except.bind]
      exact ⟨_, rfl, List.rel_append (List.rel_append lowAlike highAlike)
        (.cons (.foundIn listed) .nil)⟩
  | anyOfThem | ofThem minimum => exact twins.ofThem compiled
  | allOfThem =>
      rw [Condition.code] at compiled ⊢
      rw [← twins.strings.length_eq]
      exact twins.ofThem compiled
  | rule name =>
      obtain ⟨number, isNumber, same⟩ := bind_eq_ok compiled
      cases same
      obtain ⟨place, index, listed, rfl, isNumber'⟩ := twins.earlierRule isNumber
      simp only [Condition.code, isNumber', bind, Except.bind]
      exact ⟨_, rfl, .cons (.rule listed) .nil⟩
  | external name =>
      obtain ⟨index, isIndex, same⟩ := bind_eq_ok compiled
      cases same
      simp only [Condition.code, twins.external isIndex, bind, Except.bind]
      exact ⟨_, rfl, .cons (.plain rfl) .nil⟩
  | not inner ih =>
      obtain ⟨code, isCode, same⟩ := bind_eq_ok compiled
      cases same
      obtain ⟨code', isCode', alike⟩ := ih isCode
      simp only [Condition.code, isCode', bind, Except.bind]
      exact ⟨_, rfl, List.rel_append alike (.cons (.plain rfl) .nil)⟩
  | and left right ihLeft ihRight | or left right ihLeft ihRight
  | compare comparison left right ihLeft ihRight | contains left right ihLeft ihRight =>
      obtain ⟨leftCode, isLeft, rest⟩ := bind_eq_ok compiled
      obtain ⟨rightCode, isRight, same⟩ := bind_eq_ok rest
      cases same
      obtain ⟨leftCode', isLeft', leftAlike⟩ := ihLeft isLeft
      obtain ⟨rightCode', isRight', rightAlike⟩ := ihRight isRight
      simp only [Condition.code, isLeft', isRight', bind, Except.bind]
      exact ⟨_, rfl, List.rel_append (List.rel_append leftAlike rightAlike)
        (.cons (.plain rfl) .nil)⟩

end ScopeTwin

end ByteScan
