import ByteScan.Proofs.Items
import ByteScan.Proofs.Scan.Chunks
import ByteScan.Proofs.Scan.Ledgers
import ByteScan.Scan.Context

/-!
# A store of chained lists

A store keeps the matches of all strings in one arena. `Store.Keeps` says which matches a store keeps;
from it follows what can be told of the store, and adding a match or cleaning the store changes the
matches as it should.
-/

namespace ByteScan

structure Notes where
  recorded : Std.HashSet (Nat × UInt64 × Nat)
  matchedRules : Array Bool
  unsatisfiedSpaces : Array Bool
  stringTimes : Array Nanoseconds
  ruleTimes : Array Nanoseconds

/-- The state of a scan, with the matches of all strings in one arena. -/
structure Store where
  records : Chunks Record
  /-- The strings with matches, in the order of their first match. -/
  registry : Chunks Nat
  chains : Array Chain
  notes : Notes

namespace Notes

def new (rules : RuleSet) : Notes where
  recorded := ∅
  matchedRules := Array.replicate rules.rules.size false
  unsatisfiedSpaces := Array.replicate rules.spaces.size false
  stringTimes := Array.replicate rules.strings.size 0
  ruleTimes := Array.replicate rules.rules.size 0

def cleared (notes : Notes) : Notes where
  recorded := ∅
  matchedRules := notes.matchedRules.map fun _ => false
  unsatisfiedSpaces := notes.unsatisfiedSpaces.map fun _ => false
  stringTimes := notes.stringTimes.map fun _ => 0
  ruleTimes := notes.ruleTimes.map fun _ => 0

end Notes

namespace Store

def new (rules : RuleSet) : Store where
  records := .withRoom 1024
  registry := .withRoom 8
  chains := Array.replicate rules.strings.size .empty
  notes := .new rules

def chainOf (store : Store) (string : Nat) : Chain := store.chains.getD string .empty

/-- The matches of the record with a number and of those after it, unless there are more of them than
the first argument says. -/
def walk (store : Store) : Nat → Option Nat → Option (List Match)
  | _, none => some []
  | 0, some _ => none
  | left + 1, some number =>
    match store.records.get? number with
    | none => some []
    | some record => (store.walk left record.next).map (record.found :: ·)

def matchesWithin (store : Store) (steps string : Nat) : Option (List Match) :=
  store.walk steps (store.chainOf string).head

def matchCount (store : Store) (string : Nat) : Nat := (store.chainOf string).count

def lastMatch? (store : Store) (string : Nat) : Option Match := do
  let tail ← (store.chainOf string).tail
  (store.records.get? tail).map Record.found

def matchingStrings (store : Store) : List Nat := store.registry.items

def register (store : Store) (string : Nat) : Except Error Store :=
  if store.matchCount string = 0 then do
    let (_, registry) ← store.registry.push string
    .ok { store with registry }
  else .ok store

def link (store : Store) (string number : Nat) : Store :=
  match (store.chainOf string).tail with
  | none => store
  | some tail =>
    { store with records := store.records.modify tail fun record =>
        { record with next := some number } }

def extend (store : Store) (string number : Nat) : Store :=
  { store with chains := store.chains.modify string (·.extend number) }

def addMatch (string : Nat) (found : Match) : EStateM Error Store Unit := fun store =>
  if Context.matchLimit ≤ store.matchCount string then .error .insufficientMemory store
  else
    match store.records.push ⟨found, none⟩ with
    | .error error => .error error store
    | .ok (number, records) =>
      let store := { store with records }
      match store.register string with
      | .error error => .error error store
      | .ok store => .ok () ((store.link string number).extend string number)

/-- Empties the lists of the registered strings, and then the arenas. -/
def clean (store : Store) : Store where
  records := store.records.clear
  registry := store.registry.clear
  chains := store.registry.items.foldl
    (fun chains string => chains.setIfInBounds string .empty) store.chains
  notes := store.notes.cleared

end Store

/-! ## What a store holds -/

namespace Store

variable {store : Store} {ledger : Ledger} {string : Nat} {found : Match}

theorem get?_of_records {before : List Record} {entry : Nat × Match}
    (records : store.records.items = before ++ Ledger.recordsFrom before.length (entry :: ledger)) :
    store.records.get? before.length =
      some ⟨entry.2, ledger.firstFrom entry.1 (before.length + 1)⟩ := by
  rw [Chunks.get?_eq, records, List.getElem?_append_right (Nat.le_refl _), Nat.sub_self]
  rfl

theorem records_next {before : List Record} {entry : Nat × Match}
    (records : store.records.items = before ++ Ledger.recordsFrom before.length (entry :: ledger)) :
    ∃ after : List Record, after.length = before.length + 1 ∧
      store.records.items = after ++ ledger.recordsFrom after.length := by
  refine ⟨before ++ [⟨entry.2, ledger.firstFrom entry.1 (before.length + 1)⟩], ?_, ?_⟩
  · rw [List.length_append, List.length_singleton]
  · rw [records, List.append_assoc, List.length_append, List.length_singleton]
    rfl

theorem walk_recordsFrom (before : List Record)
    (records : store.records.items = before ++ ledger.recordsFrom before.length) {steps : Nat}
    (enough : (ledger.matchesOf string).length ≤ steps) :
    store.walk steps (ledger.firstFrom string before.length) = some (ledger.matchesOf string) := by
  induction ledger generalizing before steps with
  | nil => cases steps <;> rfl
  | cons entry ledger ih =>
      obtain ⟨after, place, later⟩ := records_next records
      rw [Ledger.firstFrom]
      split
      · rename_i same
        subst same
        rw [Ledger.matchesOf_cons_same] at enough ⊢
        cases steps with
        | zero => simp at enough
        | succ steps =>
            rw [walk, get?_of_records records]
            dsimp only
            rw [← place, ih after later (Nat.le_of_succ_le_succ enough), Option.map_some]
      · rename_i other
        rw [Ledger.matchesOf_cons_other other] at enough ⊢
        rw [← place]
        exact ih after later enough

/-- The last record of a string has its last match. -/
theorem last_recordsFrom (before : List Record)
    (records : store.records.items = before ++ ledger.recordsFrom before.length) :
    ((ledger.lastFrom string before.length).bind fun tail =>
      (store.records.get? tail).map Record.found) = (ledger.matchesOf string).getLast? := by
  induction ledger generalizing before with
  | nil => rfl
  | cons entry ledger ih =>
      obtain ⟨after, place, later⟩ := records_next records
      have rest := ih after later
      rw [place] at rest
      rw [Ledger.lastFrom]
      cases isLast : Ledger.lastFrom string (before.length + 1) ledger with
      | some tail =>
          rw [isLast] at rest
          rw [Option.some_or, rest]
          by_cases same : entry.1 = string
          · subst same
            rw [Ledger.matchesOf_cons_same]
            cases others : Ledger.matchesOf ledger entry.1 with
            | nil =>
                rw [Ledger.lastFrom_eq_none_iff.mpr others] at isLast
                cases isLast
            | cons first rest => rw [List.getLast?_cons_cons]
          · rw [Ledger.matchesOf_cons_other same]
      | none =>
          have unmatched := Ledger.lastFrom_eq_none_iff.mp isLast
          rw [Option.none_or]
          split
          · rename_i same
            subst same
            rw [Ledger.matchesOf_cons_same, unmatched, Option.bind_some, get?_of_records records]
            rfl
          · rename_i other
            rw [Ledger.matchesOf_cons_other other, unmatched]
            rfl

/-- The arena, the registry and the chains of a store are those of some matches. -/
structure Keeps (store : Store) (ledger : Ledger) : Prop where
  recordsSound : store.records.Sound
  records : store.records.items = ledger.recordsFrom 0
  registrySound : store.registry.Sound
  registry : store.registry.items = ledger.strings
  chains : ∀ string, store.chainOf string = ledger.chainOf string
  limited : ∀ string, (ledger.matchesOf string).length ≤ Context.matchLimit

theorem keeps_new (rules : RuleSet) : (new rules).Keeps [] where
  recordsSound := Chunks.sound_withRoom _
  records := rfl
  registrySound := Chunks.sound_withRoom _
  registry := rfl
  chains := by
    intro string
    rw [chainOf, new, getD_replicate]
    rfl
  limited := fun _ => Nat.zero_le _

namespace Keeps

variable (keeps : store.Keeps ledger)
include keeps

theorem matchCount_eq (string : Nat) :
    store.matchCount string = (ledger.matchesOf string).length := by
  rw [matchCount, keeps.chains]
  rfl

theorem matchesWithin_eq {steps string : Nat} (enough : store.matchCount string ≤ steps) :
    store.matchesWithin steps string = some (ledger.matchesOf string) := by
  rw [keeps.matchCount_eq] at enough
  rw [matchesWithin, keeps.chains]
  exact walk_recordsFrom [] keeps.records enough

theorem lastMatch?_eq (string : Nat) :
    store.lastMatch? string = (ledger.matchesOf string).getLast? := by
  rw [← last_recordsFrom [] keeps.records, lastMatch?, keeps.chains]
  rfl

end Keeps

/-! ## Adding a match -/

theorem link_chains (string number : Nat) : (store.link string number).chains = store.chains := by
  rw [link]
  split <;> rfl

theorem link_registry (string number : Nat) :
    (store.link string number).registry = store.registry := by
  rw [link]
  split <;> rfl

theorem link_notes (string number : Nat) : (store.link string number).notes = store.notes := by
  rw [link]
  split <;> rfl

theorem sound_link (sound : store.records.Sound) (string number : Nat) :
    (store.link string number).records.Sound := by
  rw [link]
  split
  · exact sound
  · exact sound.modify _ _

theorem chainOf_extend (known : string < store.chains.size) (number other : Nat) :
    (store.extend string number).chainOf other =
      if string = other then (store.chainOf other).extend number else store.chainOf other := by
  simp only [chainOf, extend, Array.getD_eq_getD_getElem?, Array.getElem?_modify]
  split
  · rename_i same
    subst same
    rw [Array.getElem?_eq_getElem known]
    rfl
  · rfl

/-- The records are those of the matches with the new one, once it is linked to. -/
theorem items_link {last : Option Nat} (isLast : (store.chainOf string).tail = last)
    (sameLast : ledger.lastFrom string 0 = last)
    (records : store.records.items = ledger.recordsFrom 0 ++ [⟨found, none⟩]) :
    (store.link string ledger.length).records.items =
      Ledger.recordsFrom 0 (ledger ++ [(string, found)]) := by
  rw [link, isLast]
  cases last with
  | none =>
      rw [Ledger.recordsFrom_concat_first (Ledger.lastFrom_eq_none_iff.mp sameLast)]
      exact records
  | some tail =>
      rw [Ledger.recordsFrom_concat_later sameLast, Nat.zero_add, Nat.sub_zero, ← records]
      exact Chunks.items_modify ..

namespace Keeps

variable (keeps : store.Keeps ledger)
include keeps

theorem register (free : ledger.length < Arena.capacity) (string : Nat) (found : Match)
    (records : Chunks Record) :
    ∃ registry, ({ store with records } : Store).register string =
        .ok { store with records, registry } ∧
      registry.items = Ledger.strings (ledger ++ [(string, found)]) ∧ registry.Sound := by
  have count := keeps.matchCount_eq string
  have unchanged : ({ store with records } : Store).matchCount string = store.matchCount string :=
    rfl
  rw [Store.register, unchanged, count, Ledger.strings_concat, ← keeps.registry]
  by_cases first : ledger.matchesOf string = []
  · have few : store.registry.items.length < Arena.capacity := by
      rw [keeps.registry]
      exact Nat.lt_of_le_of_lt Ledger.length_strings_le free
    obtain ⟨registry, pushed, items, sound⟩ := keeps.registrySound.push string few
    rw [if_pos (List.length_eq_zero_iff.mpr first), if_pos first, pushed]
    exact ⟨registry, rfl, items, sound⟩
  · rw [if_neg (mt List.length_eq_zero_iff.mp first), if_neg first]
    exact ⟨store.registry, rfl, rfl, keeps.registrySound⟩

/-- No match is added where there is no room for one, and then nothing changes. -/
theorem addMatch_full (found : Match)
    (full : Context.matchLimit ≤ store.matchCount string ∨ Arena.capacity ≤ ledger.length) :
    addMatch string found store = .error .insufficientMemory store := by
  rw [addMatch]
  by_cases many : Context.matchLimit ≤ store.matchCount string
  · rw [if_pos many]
  · have taken : Arena.capacity ≤ store.records.items.length := by
      rw [keeps.records, Ledger.length_recordsFrom]
      exact full.resolve_left many
    rw [if_neg many, keeps.recordsSound.push_full _ taken]

/-- A match is added after the others of its string. -/
theorem addMatch_ok (known : string < store.chains.size) (found : Match)
    (room : store.matchCount string < Context.matchLimit)
    (free : ledger.length < Arena.capacity) :
    ∃ after, addMatch string found store = .ok () after ∧
      after.Keeps (ledger ++ [(string, found)]) ∧ after.notes = store.notes ∧
      after.chains.size = store.chains.size := by
  have few : store.records.items.length < Arena.capacity := by
    rwa [keeps.records, Ledger.length_recordsFrom]
  obtain ⟨records, pushed, items, sound⟩ := keeps.recordsSound.push ⟨found, none⟩ few
  obtain ⟨registry, registered, names, registrySound⟩ := keeps.register free string found records
  rw [keeps.records, Ledger.length_recordsFrom] at pushed
  rw [keeps.records] at items
  have chains (other : Nat) :
      chainOf { store with records, registry } other = ledger.chainOf other := keeps.chains other
  refine ⟨(link { store with records, registry } string ledger.length).extend string ledger.length,
    ?_, ?_, ?_, ?_⟩
  · rw [addMatch, if_neg (Nat.not_le.mpr room), pushed]
    dsimp only
    rw [registered]
  · constructor
    case recordsSound => exact sound_link sound string ledger.length
    case records => exact items_link (congrArg Chain.tail (chains string)) rfl items
    case registrySound =>
      rw [extend, link_registry]
      exact registrySound
    case registry =>
      rw [extend, link_registry]
      exact names
    case chains =>
      intro other
      have inside : string <
          (link { store with records, registry } string ledger.length).chains.size := by
        rwa [link_chains]
      rw [chainOf_extend inside, chainOf, link_chains, Ledger.chainOf_concat, ← chains]
      rfl
    case limited =>
      intro other
      by_cases same : string = other
      · subst same
        rw [Ledger.matchesOf_concat_same, List.length_append, List.length_singleton,
          ← keeps.matchCount_eq]
        exact room
      · rw [Ledger.matchesOf_concat_other same]
        exact keeps.limited other
  · rw [extend, link_notes]
  · rw [extend, Array.size_modify, link_chains]

end Keeps

end Store

/-! ## Cleaning -/

theorem getD_foldl_setIfInBounds (items : Array α) (blank : α) (places : List Nat) (place : Nat) :
    (places.foldl (fun items place => items.setIfInBounds place blank) items).getD place blank =
      if place ∈ places then blank else items.getD place blank := by
  induction places generalizing items with
  | nil => rw [if_neg List.not_mem_nil, List.foldl_nil]
  | cons first rest ih =>
      rw [List.foldl_cons, ih]
      by_cases later : place ∈ rest
      · rw [if_pos later, if_pos (List.mem_cons_of_mem _ later)]
      · rw [if_neg later]
        simp only [Array.getD_eq_getD_getElem?, Array.getElem?_setIfInBounds]
        by_cases same : first = place
        · subst same
          rw [if_pos rfl, if_pos (List.mem_cons_self ..)]
          split <;> rfl
        · rw [if_neg same, if_neg (by simp [Ne.symm same, later])]

theorem size_foldl_setIfInBounds (items : Array α) (blank : α) (places : List Nat) :
    (places.foldl (fun items place => items.setIfInBounds place blank) items).size =
      items.size := by
  induction places generalizing items with
  | nil => rfl
  | cons first rest ih => rw [List.foldl_cons, ih, Array.size_setIfInBounds]

theorem Store.Keeps.clean {store : Store} {ledger : Ledger} (keeps : store.Keeps ledger) :
    store.clean.Keeps [] where
  recordsSound := keeps.recordsSound.clear
  records := Chunks.items_clear _
  registrySound := keeps.registrySound.clear
  registry := Chunks.items_clear _
  chains := by
    intro string
    rw [Store.chainOf, Store.clean, getD_foldl_setIfInBounds, keeps.registry]
    split
    · rfl
    · rename_i absent
      -- A string that is not registered has no matches.
      rw [Ledger.mem_strings_iff, not_not] at absent
      refine (keeps.chains string).trans ?_
      rw [Ledger.chainOf, Ledger.firstFrom_eq_none_iff.mpr absent,
        Ledger.lastFrom_eq_none_iff.mpr absent, absent]
      rfl
  limited := fun _ => Nat.zero_le _

end ByteScan
