import ByteScan.Proofs.Scan.Chaining
import ByteScan.Proofs.Scan.Matches

/-!
# Keeping matches

A scan adds matches, takes note of other things and cleans what it has. Whatever it does, in whatever
order, a store of chained lists and a context keep the same matches and notes, and each string has the
matches that were added to it since the last cleaning: `Store.runAll_exact`.
-/

namespace ByteScan

/-! ## Contexts -/

namespace Context

variable {context : Context} {ledger : Ledger} {string : Nat}

def notes (context : Context) : Notes where
  recorded := context.recorded
  matchedRules := context.matchedRules
  unsatisfiedSpaces := context.unsatisfiedSpaces
  stringTimes := context.stringTimes
  ruleTimes := context.ruleTimes

/-- The lists and the registry of a context are those of some matches. -/
structure Lists (context : Context) (ledger : Ledger) : Prop where
  lists : ∀ string, context.matchesOf string = ledger.matchesOf string
  registry : context.matchingStrings = ledger.strings
  total : context.total = ledger.length

namespace Lists

variable (kept : context.Lists ledger)
include kept

theorem matchCount_eq (string : Nat) :
    context.matchCount string = (ledger.matchesOf string).length := by
  rw [← length_matchesOf, kept.lists]

theorem lastMatch?_eq (string : Nat) :
    context.lastMatch? string = (ledger.matchesOf string).getLast? := by
  rw [Context.lastMatch?_eq, kept.lists]

theorem hasRoom_iff : context.hasRoom string = true ↔
    (ledger.matchesOf string).length < matchLimit ∧ ledger.length < Arena.capacity := by
  rw [hasRoom, Bool.and_eq_true, decide_eq_true_eq, decide_eq_true_eq, kept.matchCount_eq,
    kept.total]

theorem addMatch_full (found : Match)
    (full : matchLimit ≤ (ledger.matchesOf string).length ∨ Arena.capacity ≤ ledger.length) :
    addMatch string found context = .error .insufficientMemory context := by
  have noRoom : ¬context.hasRoom string = true := by
    rw [kept.hasRoom_iff]
    omega
  rw [addMatch, if_neg noRoom]

theorem addMatch_ok (known : string < context.lists.size) (found : Match)
    (room : (ledger.matchesOf string).length < matchLimit) (free : ledger.length < Arena.capacity) :
    ∃ after, addMatch string found context = .ok () after ∧
      after.Lists (ledger ++ [(string, found)]) ∧ after.notes = context.notes ∧
      after.lists.size = context.lists.size := by
  have appended := appended_append context found known
  have lists (other : Nat) : (context.append string found).matchesOf other =
      Ledger.matchesOf (ledger ++ [(string, found)]) other := by
    by_cases same : string = other
    · subst same
      rw [appended.same, kept.lists, Ledger.matchesOf_concat_same]
    · rw [appended.other other same, kept.lists, Ledger.matchesOf_concat_other same]
  have total : context.total + 1 = (ledger ++ [(string, found)]).length := by
    rw [kept.total, List.length_append, List.length_singleton]
  have first_iff : context.matchCount string = 0 ↔ ledger.matchesOf string = [] := by
    rw [kept.matchCount_eq, List.length_eq_zero_iff]
  rw [addMatch, if_pos (kept.hasRoom_iff.mpr ⟨room, free⟩)]
  by_cases first : ledger.matchesOf string = []
  · rw [if_pos (first_iff.mpr first)]
    refine ⟨_, rfl, ⟨lists, ?_, total⟩, rfl, Array.size_modify⟩
    rw [Ledger.strings_concat, if_pos first, ← kept.registry]
    exact Array.toList_push
  · rw [if_neg (mt first_iff.mp first)]
    refine ⟨_, rfl, ⟨lists, ?_, total⟩, rfl, Array.size_modify⟩
    rw [Ledger.strings_concat, if_neg first, ← kept.registry]
    rfl

theorem clean : context.clean.Lists [] where
  lists := by
    intro string
    rw [matchesOf, Context.clean, clearLists, getD_foldl_setIfInBounds]
    split
    · rfl
    · rename_i absent
      have unmatched : context.matchesOf string = [] := by
        rw [kept.lists]
        rw [← matchingStrings, kept.registry, Ledger.mem_strings_iff, not_not] at absent
        exact absent
      exact unmatched
  registry := rfl
  total := rfl

end Lists

theorem lists_new (rules : RuleSet) (slot : Nat) (flags : ScanFlags) (fileSize : UInt64)
    (timeout : Nanoseconds) (clock : Clock) :
    (new rules slot flags fileSize timeout clock).Lists [] where
  lists := by
    intro string
    rw [matchesOf, new, getD_replicate]
    rfl
  registry := rfl
  total := rfl

end Context

/-! ## Operations -/

/-- What a scan does to its state, with the strings of a rule set. -/
inductive Operation (strings : Nat) where
  | add (string : Fin strings) (found : Match)
  | mark (string : Nat) (base : UInt64) (offset : Nat)
  | matched (rule : Nat)
  | unsatisfied (space : Nat)
  | stringTime (string : Nat) (time : Nanoseconds)
  | ruleTime (rule : Nat) (time : Nanoseconds)
  | clean

section

variable {strings : Nat}

def Notes.after (notes : Notes) : Operation strings → Notes
  | .add .. => notes
  | .mark string base offset =>
    { notes with recorded := notes.recorded.insert (string, base, offset) }
  | .matched rule => { notes with matchedRules := notes.matchedRules.setIfInBounds rule true }
  | .unsatisfied space =>
    { notes with unsatisfiedSpaces := notes.unsatisfiedSpaces.setIfInBounds space true }
  | .stringTime string time =>
    { notes with stringTimes := notes.stringTimes.modify string (·.add time) }
  | .ruleTime rule time => { notes with ruleTimes := notes.ruleTimes.modify rule (·.add time) }
  | .clean => notes.cleared

def Store.perform : Operation strings → EStateM Error Store Unit
  | .add string found => Store.addMatch string found
  | .clean => modify Store.clean
  | operation => modify fun store => { store with notes := store.notes.after operation }

def Context.perform : Operation strings → ScanM Unit
  | .add string found => Context.addMatch string found
  | .mark string base offset => modify (Context.markRecorded string base offset)
  | .matched rule => modify (·.setRuleMatched rule)
  | .unsatisfied space => modify (·.setUnsatisfied space)
  | .stringTime string time => modify (·.addStringTime string time)
  | .ruleTime rule time => modify (·.addRuleTime rule time)
  | .clean => modify Context.clean

/-- The matches that were added since the last cleaning, after an operation that succeeds. -/
def Ledger.after (ledger : Ledger) : Operation strings → Ledger
  | .add string found => ledger ++ [(string.val, found)]
  | .clean => []
  | _ => ledger

def Operation.run (perform : Operation strings → EStateM Error σ Unit) (before : σ × Ledger)
    (operation : Operation strings) : σ × Ledger :=
  match perform operation before.1 with
  | .ok _ after => (after, before.2.after operation)
  | .error _ after => (after, before.2)

def Operation.runAll (perform : Operation strings → EStateM Error σ Unit) (start : σ)
    (operations : List (Operation strings)) : σ × Ledger :=
  operations.foldl (Operation.run perform) (start, [])

/-! ## Stores and contexts side by side -/

/-- A store and a context keep the same matches and notes. -/
structure Mirrored (strings : Nat) (left : Store × Ledger) (right : Context × Ledger) : Prop where
  ledger : right.2 = left.2
  store : left.1.Keeps left.2
  context : right.1.Lists left.2
  notes : right.1.notes = left.1.notes
  chains : left.1.chains.size = strings
  lists : right.1.lists.size = strings

theorem mirrored_start (rules : RuleSet) (slot : Nat) (flags : ScanFlags) (fileSize : UInt64)
    (timeout : Nanoseconds) (clock : Clock) :
    Mirrored rules.strings.size (Store.new rules, [])
      (Context.new rules slot flags fileSize timeout clock, []) where
  ledger := rfl
  store := Store.keeps_new rules
  context := Context.lists_new rules slot flags fileSize timeout clock
  notes := rfl
  chains := Array.size_replicate
  lists := Array.size_replicate

namespace Mirrored

variable {left : Store × Ledger} {right : Context × Ledger}

/-- A match is added to both, or to neither of them because there is no room for it. -/
theorem addMatch_cases (mirrored : Mirrored strings left right) (string : Fin strings)
    (found : Match) :
    (∃ store context, Store.addMatch string found left.1 = .ok () store ∧
      Context.addMatch string found right.1 = .ok () context ∧
      (left.2.matchesOf string).length < Context.matchLimit ∧
      Mirrored strings (store, left.2 ++ [(string.val, found)])
        (context, left.2 ++ [(string.val, found)])) ∨
    (Context.matchLimit ≤ (left.2.matchesOf string).length ∨ Arena.capacity ≤ left.2.length) ∧
      Store.addMatch string found left.1 = .error .insufficientMemory left.1 ∧
      Context.addMatch string found right.1 = .error .insufficientMemory right.1 := by
  have count := mirrored.store.matchCount_eq string
  by_cases room : (left.2.matchesOf string).length < Context.matchLimit ∧
      left.2.length < Arena.capacity
  · obtain ⟨store, stored, keeps, notes, chains⟩ := mirrored.store.addMatch_ok
      (mirrored.chains.symm ▸ string.isLt) found (count ▸ room.1) room.2
    obtain ⟨context, added, lists, notes', size⟩ := mirrored.context.addMatch_ok
      (mirrored.lists.symm ▸ string.isLt) found room.1 room.2
    refine Or.inl ⟨store, context, stored, added, room.1, rfl, keeps, lists, ?_, ?_, ?_⟩
    · exact notes'.trans (mirrored.notes.trans notes.symm)
    · exact chains.trans mirrored.chains
    · exact size.trans mirrored.lists
  · have full : Context.matchLimit ≤ (left.2.matchesOf string).length ∨
        Arena.capacity ≤ left.2.length := by omega
    exact Or.inr ⟨full, mirrored.store.addMatch_full found (count.symm ▸ full),
      mirrored.context.addMatch_full found full⟩

theorem add (mirrored : Mirrored strings left right) (string : Fin strings) (found : Match) :
    Mirrored strings (Operation.run Store.perform left (.add string found))
      (Operation.run Context.perform right (.add string found)) := by
  rw [Operation.run, Operation.run, Store.perform, Context.perform]
  rcases mirrored.addMatch_cases string found with
    ⟨store, context, stored, added, _, after⟩ | ⟨_, stored, added⟩
  · simp only [stored, added, mirrored.ledger]
    exact after
  · simp only [stored, added]
    exact mirrored

/-- An operation that only takes note of something leaves the matches as they are. -/
theorem note (mirrored : Mirrored strings left right) {operation : Operation strings}
    {context : Context}
    (stored : Operation.run Store.perform left operation =
      ({ left.1 with notes := left.1.notes.after operation }, left.2))
    (done : Operation.run Context.perform right operation = (context, right.2))
    (lists : context.lists = right.1.lists) (registry : context.registry = right.1.registry)
    (total : context.total = right.1.total)
    (notes : context.notes = right.1.notes.after operation) :
    Mirrored strings (Operation.run Store.perform left operation)
      (Operation.run Context.perform right operation) := by
  rw [stored, done]
  have kept := mirrored.context
  constructor
  case ledger => exact mirrored.ledger
  case store => exact { mirrored.store with }
  case context =>
    refine ⟨?_, ?_, total.trans kept.total⟩
    · intro string
      rw [← kept.lists, Context.matchesOf, lists, Context.matchesOf]
    · rw [← kept.registry, Context.matchingStrings, registry, Context.matchingStrings]
  case notes => rw [notes, mirrored.notes]
  case chains => exact mirrored.chains
  case lists => exact lists ▸ mirrored.lists

theorem step (mirrored : Mirrored strings left right) (operation : Operation strings) :
    Mirrored strings (Operation.run Store.perform left operation)
      (Operation.run Context.perform right operation) := by
  cases operation with
  | add string found => exact mirrored.add string found
  | mark string base offset => exact mirrored.note rfl rfl rfl rfl rfl rfl
  | matched rule => exact mirrored.note rfl rfl rfl rfl rfl rfl
  | unsatisfied space => exact mirrored.note rfl rfl rfl rfl rfl rfl
  | stringTime string time => exact mirrored.note rfl rfl rfl rfl rfl rfl
  | ruleTime rule time => exact mirrored.note rfl rfl rfl rfl rfl rfl
  | clean =>
      -- Both empty the lists of the strings that are registered, which are all with matches.
      constructor
      case ledger => rfl
      case store => exact mirrored.store.clean
      case context => exact mirrored.context.clean
      case notes => exact congrArg Notes.cleared mirrored.notes
      case chains => exact (size_foldl_setIfInBounds ..).trans mirrored.chains
      case lists => exact (size_foldl_setIfInBounds ..).trans mirrored.lists

theorem run (mirrored : Mirrored strings left right) (operations : List (Operation strings)) :
    Mirrored strings (operations.foldl (Operation.run Store.perform) left)
      (operations.foldl (Operation.run Context.perform) right) := by
  induction operations generalizing left right with
  | nil => exact mirrored
  | cons operation operations ih => exact ih (mirrored.step operation)

end Mirrored

end

/-! ## What can be told of a state -/

structure View where
  /-- The matches of a string, if going through them ends. -/
  listOf : Nat → Option (List Match)
  countOf : Nat → Nat
  lastOf : Nat → Option Match
  strings : List Nat

def Ledger.view (ledger : Ledger) : View where
  listOf string := some (ledger.matchesOf string)
  countOf string := (ledger.matchesOf string).length
  lastOf string := (ledger.matchesOf string).getLast?
  strings := ledger.strings

/-- The view of a store, where going through the matches of a string may take `more` steps than there
are matches. -/
def Store.view (more : Nat) (store : Store) : View where
  listOf string := store.matchesWithin (store.matchCount string + more) string
  countOf := store.matchCount
  lastOf := store.lastMatch?
  strings := store.matchingStrings

def Context.view (context : Context) : View where
  listOf string := some (context.matchesOf string)
  countOf := context.matchCount
  lastOf := context.lastMatch?
  strings := context.matchingStrings

theorem Store.Keeps.view_eq {store : Store} {ledger : Ledger} (keeps : store.Keeps ledger)
    (more : Nat) : store.view more = ledger.view := by
  have lists (string : Nat) := keeps.matchesWithin_eq (Nat.le_add_right (store.matchCount string) more)
  rw [Store.view, Ledger.view, Store.matchingStrings, keeps.registry, funext lists,
    funext keeps.matchCount_eq, funext keeps.lastMatch?_eq]

theorem Context.Lists.view_eq {context : Context} {ledger : Ledger} (kept : context.Lists ledger) :
    context.view = ledger.view := by
  rw [Context.view, Ledger.view, kept.registry, funext kept.lists, funext kept.matchCount_eq,
    funext kept.lastMatch?_eq]

/-- How adding a match to a state ends that shows the matches of a ledger. -/
structure Receives (view : σ → View) (state : σ) (ledger : Ledger) (string : Nat) (found : Match)
    (result : EStateM.Result Error σ Unit) : Prop where
  /-- It fails just for a string that has as many matches as there may be. -/
  fails : ledger.length < Arena.capacity →
    ((∃ error after, result = .error error after) ↔
      (view state).countOf string = Context.matchLimit)
  /-- Where it fails nothing changes. -/
  unchanged : ∀ error after, result = .error error after →
    error = .insufficientMemory ∧ after = state
  /-- Otherwise the string has one more match. -/
  added : ∀ after, result = .ok () after → view after = Ledger.view (ledger ++ [(string, found)])
  /-- The lists of the other strings stay as they are. -/
  others : ∀ after, result = .ok () after → ∀ other, other ≠ string →
    (view after).listOf other = (view state).listOf other

theorem Receives.of_full {view : σ → View} {state : σ} {ledger : Ledger} {string : Nat} (found : Match)
    (shown : view state = ledger.view)
    (limit : (ledger.matchesOf string).length ≤ Context.matchLimit)
    (full : Context.matchLimit ≤ (ledger.matchesOf string).length ∨
      Arena.capacity ≤ ledger.length) :
    Receives view state ledger string found (.error .insufficientMemory state) where
  fails := by
    intro free
    rw [shown]
    have reached : (ledger.matchesOf string).length = Context.matchLimit := by omega
    exact ⟨fun _ => reached, fun _ => ⟨_, _, rfl⟩⟩
  unchanged := by
    rintro _ _ ⟨⟩
    exact ⟨rfl, rfl⟩
  added := nofun
  others := nofun

theorem Receives.of_room {view : σ → View} {state after : σ} {ledger : Ledger} {string : Nat}
    {found : Match} (shown : view state = ledger.view)
    (room : (ledger.matchesOf string).length < Context.matchLimit)
    (added : view after = Ledger.view (ledger ++ [(string, found)])) :
    Receives view state ledger string found (.ok () after) where
  fails := by
    intro _
    rw [shown]
    exact ⟨nofun, fun reached => absurd reached (Nat.ne_of_lt room)⟩
  unchanged := nofun
  added := by
    rintro _ ⟨⟩
    exact added
  others := by
    rintro _ ⟨⟩ other different
    rw [added, shown]
    exact congrArg some (Ledger.matchesOf_concat_other (Ne.symm different))

section

variable {strings : Nat} {left : Store × Ledger} {right : Context × Ledger}

theorem Mirrored.receives (mirrored : Mirrored strings left right) (string : Fin strings)
    (found : Match) (more : Nat) :
    Receives (Store.view more) left.1 left.2 string found (Store.addMatch string found left.1) ∧
      Receives Context.view right.1 left.2 string found (Context.addMatch string found right.1) := by
  have shown := mirrored.store.view_eq more
  have shown' := mirrored.context.view_eq
  rcases mirrored.addMatch_cases string found with
    ⟨store, context, stored, added, room, after⟩ | ⟨full, stored, added⟩
  · rw [stored, added]
    exact ⟨.of_room shown room (after.store.view_eq more),
      .of_room shown' room after.context.view_eq⟩
  · have limit := mirrored.store.limited string
    rw [stored, added]
    exact ⟨.of_full found shown limit full, .of_full found shown' limit full⟩

end

/-- Whatever is done to the state of a scan, each string has the matches that were added to it since
the last cleaning, in their order, and the strings with matches are listed once each in the order of
their first match; this holds of a store of chained lists and of a context, which keep the same
matches and notes. -/
theorem Store.runAll_exact (rules : RuleSet) (slot : Nat) (flags : ScanFlags)
    (fileSize : UInt64) (timeout : Nanoseconds) (clock : Clock)
    (operations : List (Operation rules.strings.size)) :
    ∃ store context ledger,
      Operation.runAll Store.perform (Store.new rules) operations = (store, ledger) ∧
      Operation.runAll Context.perform (Context.new rules slot flags fileSize timeout clock) operations =
        (context, ledger) ∧
      (∀ more, store.view more = ledger.view) ∧ context.view = ledger.view ∧
      store.notes = context.notes ∧
      ledger.strings.Nodup ∧ (∀ string, string ∈ ledger.strings ↔ ledger.matchesOf string ≠ []) ∧
      ledger.strings.Pairwise ledger.Precedes ∧
      ∀ (string : Fin rules.strings.size) (found : Match),
        (∀ more, Receives (Store.view more) store ledger string found
          (Store.addMatch string found store)) ∧
        Receives Context.view context ledger string found (Context.addMatch string found context) := by
  have mirrored := (mirrored_start rules slot flags fileSize timeout clock).run operations
  refine ⟨_, _, _, rfl, Prod.ext rfl mirrored.ledger, mirrored.store.view_eq,
    mirrored.context.view_eq, mirrored.notes.symm, eraseDups_nodup _, fun _ => Ledger.mem_strings_iff,
    Ledger.strings_ordered _, ?_⟩
  intro string found
  exact ⟨fun more => (mirrored.receives string found more).1, (mirrored.receives string found 0).2⟩

end ByteScan
