import ByteScan.Proofs.Scan.Keeping
import ByteScan.Proofs.Strict.Acting
import ByteScan.Proofs.Strict.Matching
import ByteScan.Proofs.Strict.Searching

/-!
# Scanning without reaching beyond

The strict forms of confirming candidates and of walking over blocks. They never reach beyond the data,
the tables and the lists of matches, as long as every block ends before the addresses do:
`scanBlocks_safe`. Candidates are counted for a log only, and the count has no bound here.
-/

namespace ByteScan

namespace Strict

/-- The difference of two numbers, the first of which must not be smaller. -/
def difference (whole part : Nat) : Option Nat := if part ≤ whole then some (whole - part) else none

/-- The bytes from one place to another one, which have to lie in the data in this order. -/
def slice (data : ByteArray) (start stop : Nat) : Option ByteArray :=
  if start ≤ stop ∧ stop ≤ data.size then some (data.extract start stop) else none

def addMatch (string : Nat) (found : Match) : Acting Unit := fun context => do
  let _ ← context.lists[string]?
  some (Context.addMatch string found context)

def confirm (rules : RuleSet) (number : Nat) (block : Block) (offset : Nat) : Acting Unit :=
  fun context =>
    match rules.strings[number]? with
    | none => some (.error (.corrupt (.unknownString number)) context)
    | some string =>
      if Scan.isSettled context number || Scan.isKnown rules context number block offset then
        some (.ok () context)
      else do
        match ← matchLength string block.data offset with
        | none => some (.ok () context)
        | some length => do
          let excerpt ← slice block.data offset (offset + min length Match.excerptLimit)
          addMatch number ⟨block.base, offset, length, excerpt⟩
            (Scan.remember rules number block offset context)

def verify (rules : RuleSet) (string : Nat) (block : Block) (offset : Nat) : Acting Unit :=
  fun context =>
    if context.flags.profile then do
      let begun := context.clock.look.1
      match ← confirm rules string block offset context.looked with
      | .ok () after => some (.ok () (after.charged string begun))
      | .error error after => some (.error error (after.charged string begun))
    else confirm rules string block offset context

def confirmAll (rules : RuleSet) (block : Block) (position : Nat) : List Candidate → Acting Nat
  | [] => pure 0
  | candidate :: candidates => do
    let backtrack := candidate.backtrack.toNat
    if backtrack ≤ position then do
      let offset ← require (difference position backtrack)
      verify rules candidate.string block offset
      let count ← confirmAll rules block position candidates
      pure (count + 1)
    else confirmAll rules block position candidates

def confirmState (rules : RuleSet) (block : Block) (position state : Nat) : Acting Nat := do
  let candidates ← require (candidatesAt rules.automaton state)
  confirmAll rules block position candidates

def walk (rules : RuleSet) (block : Block) : Nat → Nat → Nat → Nat → Acting Nat
  | 0, position, state, count => do
    let more ← confirmState rules block position state
    pure (count + more)
  | left + 1, position, state, count => do
    if position % Scan.deadlineStride = 0 then act Context.checkDeadline
    let more ← confirmState rules block position state
    let byte ← require block.data[position]?
    let next ← require (step rules.automaton state byte)
    walk rules block left (position + 1) next (count + more)

/-- Scans blocks one after another. What goes wrong in looking for an entry point stays there. -/
def scanBlocks (rules : RuleSet) : List Block → Acting Unit
  | [] => pure ()
  | block :: blocks => do
    act (modify (Scan.detectEntryPoint block))
    let _ ← walk rules block block.data.size 0 Automaton.root 0
    scanBlocks rules blocks

end Strict

def Block.Fits (block : Block) : Prop := block.base.toNat + block.data.size < UInt64.size

instance (block : Block) : Decidable block.Fits :=
  inferInstanceAs (Decidable (block.base.toNat + block.data.size < UInt64.size))

/-- There is a list for each string, and each match in it has an address. -/
structure Context.Sane (rules : RuleSet) (context : Context) : Prop where
  size : context.lists.size = rules.strings.size
  addressed : ∀ string, ∀ found ∈ context.matchesOf string, ∃ address, found.address? = some address

variable {rules : RuleSet} {context : Context}

theorem Context.Sane.of_lists {after : Context} (sane : context.Sane rules)
    (lists : after.lists = context.lists) : after.Sane rules where
  size := lists ▸ sane.size
  addressed := by
    intro string found member
    rw [Context.matchesOf, lists] at member
    exact sane.addressed string found member

theorem Context.Sane.appended {after : Context} (sane : context.Sane rules) {string : Nat}
    {found : Match} (appended : Context.Appended context string found after)
    (addressed : ∃ address, found.address? = some address) : after.Sane rules where
  size := appended.size_lists.trans sane.size
  addressed := by
    intro other listed member
    by_cases same : string = other
    · rw [← same, appended.same] at member
      rcases List.mem_append.mp member with earlier | isLast
      · exact sane.addressed string listed earlier
      · rw [List.mem_singleton.mp isLast]
        exact addressed
    · rw [appended.other other same] at member
      exact sane.addressed other listed member

theorem Block.Fits.address? {block : Block} (fits : block.Fits) {offset : Nat}
    (inside : offset ≤ block.data.size) (length : Nat) :
    ∃ address, (Match.ofBlock block offset length).address? = some address := by
  unfold Block.Fits at fits
  refine ⟨UInt64.ofNat (block.base.toNat + offset), if_pos ?_⟩
  change block.base.toNat + offset < UInt64.size
  omega

namespace Scan

open Strict

variable {block : Block}

/-! ## Candidates -/

theorem addMatch_safe (sane : context.Sane rules) {string : Nat} {found : Match}
    (known : string < rules.strings.size) (addressed : ∃ address, found.address? = some address) :
    Safe (Strict.addMatch string found) (Context.addMatch string found) (fun _ => Context.Sane rules)
      context := by
  have within : string < context.lists.size := sane.size ▸ known
  constructor
  · rw [Strict.addMatch, Array.getElem?_eq_getElem within]
    rfl
  · apply (Context.addMatch_outcome context found within).imp
    · intro _ after appended
      exact sane.appended appended addressed
    · rintro error after ⟨rfl, _⟩
      trivial

theorem remember_lists (number : Nat) (block : Block) (offset : Nat) :
    (remember rules number block offset context).lists = context.lists := by
  unfold remember
  split
  · rfl
  · rfl

theorem slice_eq {data : ByteArray} {start stop : Nat} (ordered : start ≤ stop)
    (inside : stop ≤ data.size) : slice data start stop = some (data.extract start stop) :=
  if_pos ⟨ordered, inside⟩

theorem confirm_safe (fits : block.Fits) (sane : context.Sane rules) (number offset : Nat) :
    Safe (Strict.confirm rules number block offset) (confirm rules number block offset)
      (fun _ => Context.Sane rules) context := by
  cases listed : rules.strings[number]? with
  | none =>
      constructor
      · simp only [Strict.confirm, confirm, listed]
      · simp only [confirm, listed]
        trivial
  | some string =>
      have known := (Array.getElem?_eq_some_iff.mp listed).1
      by_cases settled : (isSettled context number || isKnown rules context number block offset) =
          true
      · constructor
        · simp only [Strict.confirm, confirm, listed, if_pos settled]
        · simp only [confirm, listed, if_pos settled]
          exact sane
      · cases occurs : string.matchLength? block.data offset with
        | none =>
            constructor
            · simp only [Strict.confirm, confirm, listed, if_neg settled,
                string.matchLength_strict, occurs, Option.bind_eq_bind, Option.bind_some]
            · simp only [confirm, listed, if_neg settled, occurs]
              exact sane
        | some length =>
            have enough := string.le_size_of_matchLength? occurs
            have inside : offset ≤ block.data.size := by omega
            have excerpt : slice block.data offset (offset + min length Match.excerptLimit) =
                some (block.data.extract offset (offset + min length Match.excerptLimit)) :=
              slice_eq (Nat.le_add_right _ _) (by omega)
            have remembered : (remember rules number block offset context).Sane rules :=
              sane.of_lists (remember_lists number block offset)
            have safe := addMatch_safe remembered known (fits.address? inside length)
            constructor
            · simp only [Strict.confirm, confirm, listed, if_neg settled,
                string.matchLength_strict, occurs, Option.bind_eq_bind, Option.bind_some, excerpt]
              exact safe.same
            · simp only [confirm, listed, if_neg settled, occurs]
              exact safe.outcome

theorem verify_eq (number : Nat) (block : Block) (offset : Nat) :
    verify rules number block offset context =
      if context.flags.profile then
        match confirm rules number block offset context.looked with
        | .ok () after => .ok () (after.charged number context.clock.look.1)
        | .error error after => .error error (after.charged number context.clock.look.1)
      else confirm rules number block offset context := rfl

theorem verify_safe (fits : block.Fits) (sane : context.Sane rules) (number offset : Nat) :
    Safe (Strict.verify rules number block offset) (verify rules number block offset)
      (fun _ => Context.Sane rules) context := by
  by_cases profiled : context.flags.profile = true
  · have looked : context.looked.Sane rules := sane.of_lists rfl
    obtain ⟨same, outcome⟩ := confirm_safe fits looked number offset
    cases ended : confirm rules number block offset context.looked with
    | ok value after =>
        rw [ended] at same outcome
        constructor
        · simp only [Strict.verify, verify_eq, if_pos profiled, same, ended, Option.bind_eq_bind,
            Option.bind_some]
        · rw [verify_eq, if_pos profiled, ended]
          exact outcome.of_lists rfl
    | error error after =>
        rw [ended] at same outcome
        constructor
        · simp only [Strict.verify, verify_eq, if_pos profiled, same, ended, Option.bind_eq_bind,
            Option.bind_some]
        · rw [verify_eq, if_pos profiled, ended]
          exact outcome
  · obtain ⟨same, outcome⟩ := confirm_safe fits sane number offset
    constructor
    · rw [Strict.verify, verify_eq, if_neg profiled, if_neg profiled, same]
    · rw [verify_eq, if_neg profiled]
      exact outcome

theorem confirmAll_safe (fits : block.Fits) (sane : context.Sane rules) (position : Nat)
    (candidates : List Candidate) :
    Safe (Strict.confirmAll rules block position candidates)
      (confirmAll rules block position candidates) (fun _ => Context.Sane rules) context := by
  induction candidates generalizing context with
  | nil => exact Safe.pure sane
  | cons candidate candidates ih =>
      rw [Strict.confirmAll, confirmAll]
      apply Safe.ite
      · intro within
        have left : difference position candidate.backtrack.toNat =
            some (position - candidate.backtrack.toNat) := if_pos within
        rw [require_bind left]
        apply (verify_safe fits sane _ _).bind
        intro _ after sane
        apply (ih sane).bind
        intro count after sane
        exact Safe.pure sane
      · intro _
        exact ih sane

/-! ## Blocks -/

variable {found : Tables.Survey}

theorem confirmState_safe (states : rules.automaton.States found) (fits : block.Fits)
    (sane : context.Sane rules) {state : Nat} (member : state ∈ found.order) (position : Nat) :
    Safe (Strict.confirmState rules block position state) (confirmState rules block position state)
      (fun _ => Context.Sane rules) context := by
  rw [Strict.confirmState, confirmState, require_bind (states.candidatesAt member)]
  exact confirmAll_safe fits sane position _

theorem deadline_safe {condition : Prop} [Decidable condition] {next : Acting α}
    {following : ScanM α} {good : α → Context → Prop} (sane : context.Sane rules)
    (later : ∀ {context : Context}, context.Sane rules → Safe next following good context) :
    Safe (do
        if condition then act Context.checkDeadline
        next)
      (do
        if condition then Context.checkDeadline
        following) good context := by
  apply Safe.ite
  · intro _
    have checked : Safe (act Context.checkDeadline) Context.checkDeadline
        (fun _ => Context.Sane rules) context := by
      apply Safe.act
      unfold Context.checkDeadline
      split
      · exact sane
      · dsimp only
        split
        · trivial
        · exact sane.of_lists rfl
    apply checked.bind
    intro _ after sane
    exact later sane
  · intro _
    exact later sane

theorem byteAt_strict {data : ByteArray} {position : Nat} (within : position < data.size) :
    data[position]? = some (byteAt data position) := by
  rw [byteAt, dif_pos within]
  exact getElem?_pos data position within

/-- Walking over a block goes from state to state of the automaton and stays inside the block. -/
theorem walk_safe (states : rules.automaton.States found) (fits : block.Fits)
    (sane : context.Sane rules) {left position : Nat}
    (inside : position + left = block.data.size) {state : Nat} (member : state ∈ found.order)
    (count : Nat) :
    Safe (Strict.walk rules block left position state count)
      (walk rules block left position state count) (fun _ => Context.Sane rules) context := by
  induction left generalizing position state count context with
  | zero =>
      rw [Strict.walk, walk]
      apply (confirmState_safe states fits sane member position).bind
      intro more after sane
      exact Safe.pure sane
  | succ left ih =>
      rw [Strict.walk, walk]
      apply deadline_safe sane
      intro context sane
      apply (confirmState_safe states fits sane member position).bind
      intro more after sane
      -- The next state is one that was found when the tables were checked, as this one is.
      obtain ⟨stepped, reached⟩ := states.step member (byteAt block.data position)
      rw [require_bind (byteAt_strict (by omega)), require_bind stepped]
      exact ih sane (by omega) reached _

/-- Scanning blocks that end before the addresses do never reaches beyond what there is. -/
theorem scanBlocks_safe (blocks : List Block) (fits : ∀ block ∈ blocks, block.Fits)
    (sane : context.Sane rules) :
    Safe (Strict.scanBlocks rules blocks) (scanBlocks rules blocks) (fun _ => Context.Sane rules)
      context := by
  obtain ⟨found, states⟩ := Automaton.exists_states rules.automaton
  induction blocks generalizing context with
  | nil => exact Safe.pure sane
  | cons block blocks ih =>
      obtain ⟨first, rest⟩ := List.forall_mem_cons.mp fits
      rw [Strict.scanBlocks, scanBlocks]
      have entered : (detectEntryPoint block context).Sane rules := by
        obtain ⟨entryPoint, same⟩ := detectEntryPoint_rest block context
        rw [same]
        exact sane.of_lists rfl
      have detected : Safe (act (modify (detectEntryPoint block))) (modify (detectEntryPoint block))
          (fun _ => Context.Sane rules) context := Safe.act entered
      apply detected.bind
      intro _ middle sane
      have counted : (discard (scanBlock rules block) >>= fun _ => scanBlocks rules blocks) =
          scanBlock rules block >>= fun _ => scanBlocks rules blocks := by
        funext context
        change EStateM.bind (EStateM.map _ (scanBlock rules block)) _ context =
          EStateM.bind (scanBlock rules block) _ context
        rw [EStateM.bind, EStateM.map, EStateM.bind]
        cases scanBlock rules block context <;> rfl
      rw [counted]
      apply (walk_safe states first sane (Nat.zero_add _) states.root_mem 0).bind
      intro _ after sane
      exact ih rest sane

end Scan

end ByteScan
