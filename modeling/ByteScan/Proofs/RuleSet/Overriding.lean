import ByteScan.Proofs.RuleSet.Compiling
import ByteScan.Settings
import Mathlib.Data.List.TakeWhile

/-!
# Variables with the values of settings

Settings may name external variables of a rule set and give each a text, which stands for a value of the
kind that the variable has. `Settings.applyTo_exact` tells what becomes of the variables: the texts are
taken in the order of the names, up to the first one with a fault, and those before it have been set.
-/

namespace ByteScan

namespace External

/-! ## The variable of a name -/

/-- The place of the variable that a name stands for, which is the first one of that name. -/
def place? (externals : List External) (name : String) : Option Nat :=
  (externals.map identifier).idxOf? name

def named? (externals : List External) (name : String) : Option External :=
  (place? externals name).bind fun place => externals[place]?

def fault? (externals : List External) (entry : String × String) : Option Error :=
  match named? externals entry.1 with
  | none => some (.invalidArgument (.unknownExternal entry.1))
  | some external =>
    match external.value.reread? entry.2 with
    | none => some (.invalidArgument (.invalidValue entry.2 external.value.kind entry.1))
    | some _ => none

variable {externals current : List External} {external : External} {name text : String} {place : Nat}

theorem identifier_of_place? (isPlace : place? externals name = some place) :
    (externals.map identifier)[place]? = some name := by
  obtain ⟨within, isName, -⟩ := List.idxOf?_eq_some_iff.mp isPlace
  rw [List.getElem?_eq_getElem within, isName]

theorem name_eq_of_place? {other : String} (isPlace : place? externals name = some place)
    (samePlace : place? externals other = some place) : name = other :=
  Option.some.inj ((identifier_of_place? isPlace).symm.trans (identifier_of_place? samePlace))

theorem exists_place_of_named? (isNamed : named? externals name = some external) :
    ∃ place, place? externals name = some place ∧ externals[place]? = some external :=
  Option.bind_eq_some_iff.mp isNamed

theorem place?_of_named?_eq_none (unnamed : named? externals name = none) :
    place? externals name = none := by
  cases isPlace : place? externals name with
  | none => rfl
  | some place =>
      have isName := identifier_of_place? isPlace
      rw [named?, isPlace, Option.bind_some] at unnamed
      rw [List.getElem?_map, unnamed] at isName
      cases isName

theorem place?_cons (external : External) (externals : List External) (name : String) :
    place? (external :: externals) name =
      if external.identifier = name then some 0 else (place? externals name).map (· + 1) := by
  rw [place?, List.map_cons, List.idxOf?_cons]
  simp only [beq_iff_eq]
  rfl

theorem redefineWith_of_unnamed {change : ExternalValue → Except Error ExternalValue}
    (unnamed : place? externals name = none) :
    redefineWith name change externals = .error (.invalidArgument (.unknownExternal name)) := by
  induction externals with
  | nil => rfl
  | cons external externals ih =>
      rw [place?_cons] at unnamed
      split at unnamed
      · cases unnamed
      · rename_i other
        rw [redefineWith, if_neg other, ih (Option.map_eq_none_iff.mp unnamed)]

theorem redefineWith_of_place? {change : ExternalValue → Except Error ExternalValue}
    (isPlace : place? externals name = some place) (isThere : externals[place]? = some external) :
    redefineWith name change externals =
      (change external.value).map fun value => externals.set place { external with value } := by
  induction externals generalizing place with
  | nil => cases isThere
  | cons first externals ih =>
      rw [place?_cons] at isPlace
      rw [redefineWith]
      split at isPlace
      · rename_i isFirst
        obtain rfl := Option.some.inj isPlace
        obtain rfl := Option.some.inj isThere
        rw [if_pos isFirst]
        cases change first.value <;> rfl
      · rename_i other
        obtain ⟨before, isBefore, rfl⟩ := Option.map_eq_some_iff.mp isPlace
        rw [if_neg other, ih isBefore isThere]
        cases change external.value <;> rfl

/-! ## Variables with other values -/

theorem kind_reread? {current value : ExternalValue} (reread : current.reread? text = some value) :
    value.kind = current.kind := by
  cases current with
  | integer | float =>
      obtain ⟨_, -, rfl⟩ := Option.map_eq_some_iff.mp reread
      rfl
  | boolean =>
      rw [ExternalValue.reread?] at reread
      split at reread
      · cases reread
        rfl
      · split at reread <;> cases reread
        rfl
  | string =>
      cases reread
      rfl

/-- Variables before and after some texts gave values to those of their names. -/
structure Overridden (externals : List External) (texts : List (String × String))
    (after : List External) : Prop where
  identifiers : after.map identifier = externals.map identifier
  kinds : after.map (·.value.kind) = externals.map (·.value.kind)
  /-- The variable of a name has the value of its kind that the text stands for. -/
  given : ∀ entry ∈ texts, ∃ place external value,
    place? externals entry.1 = some place ∧ externals[place]? = some external ∧
      external.value.reread? entry.2 = some value ∧ after[place]? = some { external with value }
  /-- A variable for which there is no text has the value that it had. -/
  kept : ∀ place, (∀ entry ∈ texts, place? externals entry.1 ≠ some place) →
    after[place]? = externals[place]?

theorem overridden_refl (externals : List External) : Overridden externals [] externals where
  identifiers := rfl
  kinds := rfl
  given _ member := absurd member List.not_mem_nil
  kept _ _ := rfl

theorem map_set_of_eq {β : Type} (property : External → β) {other : External}
    (isThere : externals[place]? = some external) (same : property other = property external) :
    (externals.set place other).map property = externals.map property := by
  obtain ⟨within, isExternal⟩ := List.getElem?_eq_some_iff.mp isThere
  rw [List.map_set, same, ← isExternal, ← List.getElem_map property, List.set_getElem_self]
  rwa [List.length_map]

namespace Overridden

variable {texts : List (String × String)} (overridden : Overridden externals texts current)
include overridden

theorem place?_eq (name : String) : place? current name = place? externals name := by
  rw [place?, place?, overridden.identifiers]

/-- The variable of a name for which there was no text yet is as it was. -/
theorem getElem?_of_fresh (fresh : name ∉ texts.map Prod.fst)
    (isPlace : place? externals name = some place) : current[place]? = externals[place]? := by
  refine overridden.kept place fun entry member samePlace => fresh ?_
  exact name_eq_of_place? samePlace isPlace ▸ List.mem_map_of_mem member

theorem redefineFromText_of_fault {error : Error} (fresh : name ∉ texts.map Prod.fst)
    (isFault : fault? externals (name, text) = some error) :
    redefineFromText name text current = .error error := by
  rw [fault?] at isFault
  split at isFault
  · rename_i unnamed
    cases isFault
    refine redefineWith_of_unnamed ?_
    rw [overridden.place?_eq]
    exact place?_of_named?_eq_none unnamed
  · rename_i external isNamed
    split at isFault
    · rename_i unread
      cases isFault
      obtain ⟨place, isPlace, isThere⟩ := exists_place_of_named? isNamed
      rw [redefineFromText, redefineWith_of_place? ((overridden.place?_eq name).trans isPlace)
        ((overridden.getElem?_of_fresh fresh isPlace).trans isThere)]
      simp only [unread]
      rfl
    · cases isFault

theorem set {value : ExternalValue} (fresh : name ∉ texts.map Prod.fst)
    (isPlace : place? externals name = some place) (isThere : externals[place]? = some external)
    (reread : external.value.reread? text = some value) :
    Overridden externals (texts ++ [(name, text)]) (current.set place { external with value }) := by
  have stillThere := (overridden.getElem?_of_fresh fresh isPlace).trans isThere
  refine ⟨?_, ?_, ?_, ?_⟩
  · refine (map_set_of_eq identifier stillThere ?_).trans overridden.identifiers
    rfl
  · exact (map_set_of_eq (·.value.kind) stillThere (kind_reread? reread)).trans overridden.kinds
  · intro entry member
    rcases List.mem_append.mp member with earlier | isLast
    · obtain ⟨other, before, given, isOther, isBefore, isGiven, isAfter⟩ :=
        overridden.given entry earlier
      refine ⟨other, before, given, isOther, isBefore, isGiven, ?_⟩
      have apart : place ≠ other := by
        rintro rfl
        exact fresh (name_eq_of_place? isOther isPlace ▸ List.mem_map_of_mem earlier)
      rw [List.getElem?_set_ne apart, isAfter]
    · obtain rfl := List.mem_singleton.mp isLast
      refine ⟨place, external, value, isPlace, isThere, reread, ?_⟩
      exact List.getElem?_set_self (List.getElem?_eq_some_iff.mp stillThere).1
  · intro other untouched
    have apart : place ≠ other := by
      rintro rfl
      exact untouched (name, text) (List.mem_append_right _ (List.mem_singleton_self _)) isPlace
    rw [List.getElem?_set_ne apart]
    exact overridden.kept other fun entry member =>
      untouched entry (List.mem_append_left _ member)

theorem redefineFromText_of_faultless (fresh : name ∉ texts.map Prod.fst)
    (faultless : fault? externals (name, text) = none) :
    ∃ after, redefineFromText name text current = .ok after ∧
      Overridden externals (texts ++ [(name, text)]) after := by
  rw [fault?] at faultless
  split at faultless
  · cases faultless
  rename_i external isNamed
  split at faultless
  · cases faultless
  rename_i value reread
  obtain ⟨place, isPlace, isThere⟩ := exists_place_of_named? isNamed
  refine ⟨_, ?_, overridden.set fresh isPlace isThere reread⟩
  rw [redefineFromText, redefineWith_of_place? ((overridden.place?_eq name).trans isPlace)
    ((overridden.getElem?_of_fresh fresh isPlace).trans isThere)]
  simp only [reread]
  rfl

end Overridden

end External

@[simp] theorem RuleSet.externals_withExternals (rules : RuleSet) (externals : List External) :
    (rules.withExternals externals).externals = externals := rfl

/-! ## Settings -/

namespace Settings

variable {externals current : List External}

/-- The texts are taken one after the other, up to the first one with a fault. -/
theorem applyTexts_overridden (rules : RuleSet) {done : List (String × String)}
    (overridden : External.Overridden externals done current) (entries : List (String × String))
    (distinct : ((done ++ entries).map Prod.fst).Nodup) :
    ∃ after, External.Overridden externals
        (done ++ entries.takeWhile fun entry => (External.fault? externals entry).isNone) after ∧
      applyTexts (rules.withExternals current) entries =
        (match entries.findSome? (External.fault? externals) with
          | none => .ok ()
          | some error => .error error, rules.withExternals after) := by
  induction entries generalizing done current with
  | nil => exact ⟨current, by rwa [List.takeWhile_nil, List.append_nil], rfl⟩
  | cons entry entries ih =>
      obtain ⟨name, text⟩ := entry
      have fresh : name ∉ done.map Prod.fst := by
        intro member
        rw [List.map_append, List.map_cons] at distinct
        exact (List.nodup_append.mp distinct).2.2 name member name (List.mem_cons_self ..) rfl
      rw [applyTexts, RuleSet.defineFromText]
      cases isFault : External.fault? externals (name, text) with
      | some error =>
          refine ⟨current, ?_, ?_⟩
          · rwa [List.takeWhile_cons_of_neg (by simp [isFault]), List.append_nil]
          · rw [List.findSome?_cons, isFault]
            dsimp only
            rw [RuleSet.externals_withExternals, overridden.redefineFromText_of_fault fresh isFault]
            rfl
      | none =>
          obtain ⟨next, defined, isNext⟩ := overridden.redefineFromText_of_faultless fresh isFault
          obtain ⟨after, isAfter, applied⟩ := ih isNext (by simpa using distinct)
          refine ⟨after, ?_, ?_⟩
          · rw [List.takeWhile_cons_of_pos (by simp [isFault])]
            simpa using isAfter
          · rw [List.findSome?_cons, isFault]
            dsimp only
            rw [RuleSet.externals_withExternals, defined]
            exact applied

/-- The texts in settings are given to variables in the order of their names, and the first text with a
fault ends this. Those before it have set the variable of their name to the value of its kind that they
stand for; every other variable is as it was, and so is the rest of the rule set. Without a fault each
text has been taken. -/
theorem applyTo_exact (settings : Settings) (rules : RuleSet) :
    ∃ after, (settings.applyTo rules).2 = rules.withExternals after ∧
      match settings.externals.entries.findSome? (External.fault? rules.externals) with
      | none =>
        (settings.applyTo rules).1 = .ok () ∧
          External.Overridden rules.externals settings.externals.entries after
      | some error =>
        (settings.applyTo rules).1 = .error error ∧
          External.Overridden rules.externals
            (settings.externals.entries.takeWhile fun entry =>
              (External.fault? rules.externals entry).isNone) after := by
  obtain ⟨after, overridden, applied⟩ := applyTexts_overridden rules
    (External.overridden_refl rules.externals) settings.externals.entries settings.externals.nodup_names
  replace applied : settings.applyTo rules = _ := applied
  refine ⟨after, by rw [applied], ?_⟩
  cases isFault : settings.externals.entries.findSome? (External.fault? rules.externals) with
  | none =>
      have all := List.takeWhile_eq_self_iff.mpr fun entry member =>
        Option.isNone_iff_eq_none.mpr (List.findSome?_eq_none_iff.mp isFault entry member)
      rw [List.nil_append, all] at overridden
      exact ⟨by rw [applied, isFault], overridden⟩
  | some error => exact ⟨by rw [applied, isFault], overridden⟩

def twoNumbers : Collection where
  externals := [⟨"a", .integer 1⟩, ⟨"b", .integer 2⟩]
  rules := [("default", ⟨"r", none, false, false, [], [], .external "b"⟩)]

theorem compile_twoNumbers : ∃ rules, twoNumbers.compile = .ok rules ∧
    rules.externals = [⟨"a", .integer 1⟩, ⟨"b", .integer 2⟩] := by
  have same : twoNumbers.compilation = .ok ⟨#["default"],
      #[⟨"r", 0, false, false, [], []⟩], #[], [[.external 1, .verdict 0]], ["a", "b"]⟩ := by with_unfolding_all rfl
  obtain ⟨rules, compiled, gives⟩ :=
    Collection.compile_ok rfl same ((Automaton.size_cells_le [] 0).trans (by decide))
  exact ⟨rules, compiled, gives.sameExternals⟩

/-- Both numbers are set, in the order of their names. -/
theorem applyTo_whole : ∃ rules settings after,
    twoNumbers.compile = .ok rules ∧
      ofText "\x7b\"externals\": \x7b\"b\": \"-7\", \"a\": \"5\"\x7d\x7d" = .ok settings ∧
      settings.applyTo rules = (.ok (), rules.withExternals after) ∧
      External.Overridden rules.externals [("a", "5"), ("b", "-7")] after := by
  obtain ⟨rules, compiled, isExternals⟩ := compile_twoNumbers
  have read : ofText "\x7b\"externals\": \x7b\"b\": \"-7\", \"a\": \"5\"\x7d\x7d" =
      .ok { externals := .ofEntries [("b", "-7"), ("a", "5")] } := by decide +kernel
  obtain ⟨after, isAfter, outcome⟩ :=
    applyTo_exact { externals := .ofEntries [("b", "-7"), ("a", "5")] } rules
  have inOrder : (NamedTexts.ofEntries [("b", "-7"), ("a", "5")]).entries =
      [("a", "5"), ("b", "-7")] := by decide +kernel
  have faultless : [("a", "5"), ("b", "-7")].findSome? (External.fault? rules.externals) = none := by
    rw [isExternals]
    decide +kernel
  simp only [inOrder, faultless] at outcome
  exact ⟨rules, _, after, compiled, read, Prod.ext outcome.1 isAfter, outcome.2⟩

/-- The second text stands for no number, and the first number has been set. -/
theorem applyTo_part : ∃ rules settings,
    twoNumbers.compile = .ok rules ∧
      ofText "\x7b\"externals\": \x7b\"a\": \"5\", \"b\": \"x\"\x7d\x7d" = .ok settings ∧
      rules.externals = [⟨"a", .integer 1⟩, ⟨"b", .integer 2⟩] ∧
      settings.applyTo rules = (.error (.invalidArgument (.invalidValue "x" "integer" "b")),
        rules.withExternals [⟨"a", .integer 5⟩, ⟨"b", .integer 2⟩]) := by
  obtain ⟨rules, compiled, isExternals⟩ := compile_twoNumbers
  have first : External.redefineFromText "a" "5" rules.externals =
      .ok [⟨"a", .integer 5⟩, ⟨"b", .integer 2⟩] := by
    rw [isExternals]
    decide +kernel
  have second : External.redefineFromText "b" "x" [⟨"a", .integer 5⟩, ⟨"b", .integer 2⟩] =
      .error (.invalidArgument (.invalidValue "x" "integer" "b")) := by decide +kernel
  have inOrder : (NamedTexts.ofEntries [("a", "5"), ("b", "x")]).entries =
      [("a", "5"), ("b", "x")] := by decide +kernel
  refine ⟨rules, { externals := .ofEntries [("a", "5"), ("b", "x")] }, compiled, by decide +kernel, isExternals, ?_⟩
  simp only [applyTo, inOrder, applyTexts, RuleSet.defineFromText, first, Except.map,
    RuleSet.externals_withExternals, second]

end Settings

end ByteScan
