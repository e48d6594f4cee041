import ByteScan.Proofs.Scan.Bookkeeping

/-!
# Cleaning a store

Cleaning empties the lists of the registered strings only, and keeps the first chunk of each arena. This
is enough to get back the store that a scan starts with, since a string with records is always
registered: `Store.clean_afterAll`. It holds whatever was done to the store before, and even where
memory ran out in the middle of an operation.
-/

namespace ByteScan

def stateAfter : EStateM.Result Error σ α → σ
  | .ok _ state => state
  | .error _ state => state

/-! ## The first chunk -/

namespace Chunks

/-- The first chunk still has the room that it had at the start. -/
structure Seated (arena : Chunks α) (room : Nat) : Prop where
  initial : arena.initial = room
  first : arena.chunks.head?.map Chunk.room = some room

theorem seated_withRoom (room : Nat) : (withRoom room : Chunks α).Seated (max 1 room) := ⟨rfl, rfl⟩

theorem head_extend {chunks : List (Chunk α)} {room : Nat}
    (first : chunks.head?.map Chunk.room = some room) (initial : Nat) (item : α) :
    (extend initial chunks item).head?.map Chunk.room = some room := by
  cases chunks with
  | nil => cases first
  | cons chunk chunks =>
      rw [extend, List.getLast?_cons]
      dsimp only
      split
      · exact first
      · cases chunks with
        | nil => exact first
        | cons second chunks => exact first

theorem head_modifyIn (chunks : List (Chunk α)) (number : Nat) (change : α → α) :
    (modifyIn chunks number change).head?.map Chunk.room = chunks.head?.map Chunk.room := by
  cases chunks with
  | nil => rfl
  | cons chunk chunks =>
      rw [modifyIn_cons]
      split <;> rfl

theorem Seated.push {arena after : Chunks α} {room number : Nat} {item : α}
    (seated : arena.Seated room) (pushed : arena.push item = .ok (number, after)) :
    after.Seated room ∧ after.items = arena.items ++ [item] := by
  rw [Chunks.push] at pushed
  split at pushed
  · cases pushed
  · cases pushed
    exact ⟨⟨seated.initial, head_extend seated.first _ _⟩, items_extend ..⟩

theorem Seated.modify {arena : Chunks α} {room : Nat} (seated : arena.Seated room) (number : Nat)
    (change : α → α) : (arena.modify number change).Seated room :=
  ⟨seated.initial, (head_modifyIn ..).trans seated.first⟩

theorem Seated.clear_eq {arena : Chunks α} {room : Nat} (seated : arena.Seated (max 1 room)) :
    arena.clear = withRoom room := by
  obtain ⟨chunks, initial, size⟩ := arena
  obtain ⟨isInitial, isFirst⟩ := seated
  dsimp only at isInitial isFirst
  subst isInitial
  cases chunks with
  | nil => cases isFirst
  | cons first rest =>
      have sameRoom : first.room = max 1 room := Option.some.inj isFirst
      rw [clear, withRoom, ← sameRoom]
      rfl

end Chunks

/-! ## Notes -/

theorem all_replicate_of {blank : α} {test : α → Bool} (holds : test blank = true) (size : Nat) :
    (Array.replicate size blank).all test = true := by
  rw [Array.all_replicate, holds, ite_self]

namespace Notes

/-- There is a verdict on each rule and each namespace, and a time for each rule and each string. -/
structure Sized (rules : RuleSet) (notes : Notes) : Prop where
  matched : notes.matchedRules.size = rules.rules.size
  unsatisfied : notes.unsatisfiedSpaces.size = rules.spaces.size
  strings : notes.stringTimes.size = rules.strings.size
  rules : notes.ruleTimes.size = rules.rules.size

variable {rules : RuleSet} {notes : Notes}

theorem sized_new (rules : RuleSet) : (new rules).Sized rules where
  matched := Array.size_replicate
  unsatisfied := Array.size_replicate
  strings := Array.size_replicate
  rules := Array.size_replicate

theorem Sized.cleared_eq (sized : notes.Sized rules) : notes.cleared = new rules := by
  simp only [cleared, new, Array.map_const', sized.matched, sized.unsatisfied, sized.strings,
    sized.rules]

theorem Sized.after {strings : Nat} (sized : notes.Sized rules) (operation : Operation strings) :
    (notes.after operation).Sized rules := by
  cases operation with
  | add string found => exact sized
  | mark string base offset => exact { sized with }
  | matched rule => exact { sized with matched := Array.size_setIfInBounds.trans sized.matched }
  | unsatisfied space =>
      exact { sized with unsatisfied := Array.size_setIfInBounds.trans sized.unsatisfied }
  | stringTime string time => exact { sized with strings := Array.size_modify.trans sized.strings }
  | ruleTime rule time => exact { sized with rules := Array.size_modify.trans sized.rules }
  | clean =>
      rw [Notes.after, sized.cleared_eq]
      exact sized_new rules

def isClean (notes : Notes) : Bool :=
  notes.matchedRules.all (!·) && notes.unsatisfiedSpaces.all (!·) && notes.recorded.isEmpty &&
    notes.stringTimes.all (· == 0) && notes.ruleTimes.all (· == 0)

theorem isClean_new (rules : RuleSet) : (new rules).isClean = true := by
  simp only [isClean, new, all_replicate_of, Std.HashSet.isEmpty_empty, Bool.not_false, beq_self_eq_true,
    Bool.and_self]

end Notes

/-! ## Stores -/

/-- What can happen to a store: an operation is performed, whether it succeeds or not, or memory runs
out after a record has been stored and before its string is registered. -/
inductive Event (strings : Nat) where
  | operation (operation : Operation strings)
  | starved (found : Match)

namespace Store

def happen (store : Store) : Event strings → Store
  | .operation operation => stateAfter (Store.perform operation store)
  | .starved found =>
    match store.records.push ⟨found, none⟩ with
    | .ok (_, records) => { store with records }
    | .error _ => store

def afterAll (rules : RuleSet) (events : List (Event rules.strings.size)) : Store :=
  events.foldl happen (new rules)

def isClean (store : Store) : Bool :=
  store.notes.isClean && store.chains.all (·.count == 0) && store.records.size == 0 &&
    store.registry.size == 0

theorem isClean_new (rules : RuleSet) : (new rules).isClean = true := by
  simp only [isClean, new, Notes.isClean_new, all_replicate_of, Chain.empty, Chunks.withRoom,
    beq_self_eq_true, Bool.and_self]

/-- A string with records is registered, and each arena has its first chunk. -/
structure Tidy (rules : RuleSet) (store : Store) : Prop where
  records : store.records.Seated 1024
  registry : store.registry.Seated 8
  chains : store.chains.size = rules.strings.size
  registered : ∀ string, store.chainOf string ≠ .empty → string ∈ store.registry.items
  notes : store.notes.Sized rules

variable {rules : RuleSet} {store : Store}

theorem tidy_new (rules : RuleSet) : (new rules).Tidy rules where
  records := Chunks.seated_withRoom _
  registry := Chunks.seated_withRoom _
  chains := Array.size_replicate
  registered := by
    intro string found
    exact absurd (getD_replicate ..) found
  notes := Notes.sized_new rules

namespace Tidy

theorem clean_eq (tidy : store.Tidy rules) : store.clean = new rules := by
  have chains : store.clean.chains = Array.replicate rules.strings.size .empty := by
    have size : store.clean.chains.size = rules.strings.size :=
      (size_foldl_setIfInBounds ..).trans tidy.chains
    rw [← size]
    refine eq_replicate_of_getD fun string => ?_
    rw [clean, getD_foldl_setIfInBounds]
    split
    · rfl
    · rename_i unregistered
      by_contra found
      exact unregistered (tidy.registered string found)
  have parts : store.clean =
      ⟨store.records.clear, store.registry.clear, store.clean.chains, store.notes.cleared⟩ := rfl
  rw [parts, chains, tidy.notes.cleared_eq, new]
  exact congrArg₂ (fun records registry => Store.mk records registry _ _)
    (Chunks.Seated.clear_eq tidy.records) (Chunks.Seated.clear_eq tidy.registry)

theorem push (tidy : store.Tidy rules) {found : Record} {number : Nat} {records : Chunks Record}
    (pushed : store.records.push found = .ok (number, records)) :
    Tidy rules { store with records } :=
  { tidy with records := (tidy.records.push pushed).1 }

theorem extend (tidy : store.Tidy rules) {string : Nat} (listed : string ∈ store.registry.items)
    (number : Nat) : ((store.link string number).extend string number).Tidy rules where
  records := by
    rw [Store.extend, link]
    split
    · exact tidy.records
    · exact tidy.records.modify ..
  registry := by
    rw [Store.extend, link_registry]
    exact tidy.registry
  chains := by
    rw [Store.extend, link_chains, Array.size_modify]
    exact tidy.chains
  registered := by
    intro other found
    rw [Store.extend, link_registry]
    by_cases same : string = other
    · exact same ▸ listed
    · refine tidy.registered other fun empty => found ?_
      rw [chainOf, Store.extend, link_chains, Array.getD_eq_getD_getElem?, Array.getElem?_modify,
        if_neg same, ← Array.getD_eq_getD_getElem?]
      exact empty
  notes := by
    rw [Store.extend, link_notes]
    exact tidy.notes

theorem register (tidy : store.Tidy rules) {string : Nat} {after : Store}
    (registered : store.register string = .ok after) :
    after.Tidy rules ∧ string ∈ after.registry.items := by
  rw [Store.register] at registered
  split at registered
  · cases pushed : store.registry.push string with
    | error error =>
        rw [pushed] at registered
        cases registered
    | ok result =>
        rw [pushed] at registered
        cases registered
        obtain ⟨seated, items⟩ := tidy.registry.push pushed
        have more : ∀ other ∈ store.registry.items, other ∈ result.2.items := by
          rw [items]
          exact fun other => List.mem_append_left _
        refine ⟨{ tidy with registry := seated, registered := ?_ }, ?_⟩
        · exact fun other found => more other (tidy.registered other found)
        · rw [items]
          exact List.mem_append_right _ (List.mem_singleton_self _)
  · rename_i counted
    cases registered
    refine ⟨tidy, tidy.registered string fun empty => counted ?_⟩
    rw [matchCount, empty]
    rfl

theorem addMatch (tidy : store.Tidy rules) (string : Nat) (found : Match) :
    (stateAfter (addMatch string found store)).Tidy rules := by
  rw [Store.addMatch]
  split
  · exact tidy
  · split
    · exact tidy
    · rename_i number records pushed
      have stored := tidy.push pushed
      dsimp only
      split
      · exact stored
      · rename_i after registered
        obtain ⟨tidied, listed⟩ := stored.register registered
        exact tidied.extend listed number

theorem perform (tidy : store.Tidy rules) (operation : Operation rules.strings.size) :
    (stateAfter (perform operation store)).Tidy rules := by
  have noted : Tidy rules { store with notes := store.notes.after operation } :=
    { tidy with notes := tidy.notes.after operation }
  cases operation with
  | add string found => exact tidy.addMatch string found
  | clean =>
      change store.clean.Tidy rules
      rw [tidy.clean_eq]
      exact tidy_new rules
  | _ => exact noted

theorem happen (tidy : store.Tidy rules) (event : Event rules.strings.size) :
    (store.happen event).Tidy rules := by
  cases event with
  | operation operation => exact tidy.perform operation
  | starved found =>
      rw [Store.happen]
      split
      · rename_i pushed
        exact tidy.push pushed
      · exact tidy

end Tidy

theorem tidy_afterAll (rules : RuleSet) (events : List (Event rules.strings.size)) :
    (afterAll rules events).Tidy rules := by
  rw [afterAll]
  generalize isStart : new rules = start
  have tidy : start.Tidy rules := isStart ▸ tidy_new rules
  clear isStart
  induction events generalizing start with
  | nil => exact tidy
  | cons event events ih => exact ih _ (tidy.happen event)

/-- Cleaning gives back the store that a scan starts with. -/
theorem clean_afterAll (rules : RuleSet) (events : List (Event rules.strings.size)) :
    (afterAll rules events).clean = new rules :=
  (tidy_afterAll rules events).clean_eq

end Store

end ByteScan
