import ByteScan.Proofs.RuleSet.Excerpts
import ByteScan.Proofs.Scan.Announcing
import ByteScan.Proofs.Scan.Blocks

/-!
# Scanning for some strings only

Two scans of the same blocks go side by side, one for all strings and one for some of them. After each
candidate, the strings that both know have the same matches: `Echo`. The scan for fewer strings has at
least as much room, so it succeeds where the other one does.
-/

namespace ByteScan.Scan

variable {selected : List Nat} {whole part : RuleSet} {first second : Context}

/-- The strings that two scans both look for have the same matches, and the second scan has at least as
much room for more. -/
structure Echo (selected : List Nat) (whole part : RuleSet) (first second : Context) : Prop where
  flags : second.flags = first.flags
  unlimited : first.timeout = 0 ∧ second.timeout = 0
  fileSize : second.fileSize = first.fileSize
  entryPoint : second.entryPoint = first.entryPoint
  objects : second.objects = first.objects
  sizes : first.lists.size = whole.strings.size ∧ second.lists.size = part.strings.size
  found : ∀ (index number : Nat), selected[index]? = some number →
    second.matchesOf index = first.matchesOf number
  recorded : ∀ (index number : Nat), selected[index]? = some number → ∀ base offset,
    (index, base, offset) ∈ second.recorded ↔ (number, base, offset) ∈ first.recorded
  total : second.total ≤ first.total

namespace Echo

variable (echo : Echo selected whole part first second)
include echo

theorem matchCount_eq {index number : Nat} (listed : selected[index]? = some number) :
    second.matchCount index = first.matchCount number := by
  rw [← Context.length_matchesOf, echo.found index number listed, Context.length_matchesOf]

theorem lastMatch?_eq {index number : Nat} (listed : selected[index]? = some number) :
    second.lastMatch? index = first.lastMatch? number := by
  rw [Context.lastMatch?_eq, echo.found index number listed, Context.lastMatch?_eq]

theorem isKnown_eq (excerpt : Excerpt selected whole part) {index number : Nat}
    (listed : selected[index]? = some number) (block : Block) (offset : Nat) :
    isKnown part second index block offset = isKnown whole first number block offset := by
  have isRecorded : second.isRecorded index block.base offset =
      first.isRecorded number block.base offset := by
    rw [Bool.eq_iff_iff, Context.isRecorded, Context.isRecorded, Std.HashSet.contains_iff_mem,
      Std.HashSet.contains_iff_mem]
    exact echo.recorded index number listed _ _
  rw [isKnown, isKnown, excerpt.mixed index number listed, isRecorded, echo.lastMatch?_eq listed]

theorem isSettled_eq {index number : Nat} (listed : selected[index]? = some number) :
    isSettled second index = isSettled first number := by
  rw [isSettled, isSettled, echo.flags, echo.matchCount_eq listed]

end Echo

/-! ## One candidate -/

theorem remember_eq (rules : RuleSet) (string : Nat) (block : Block) (offset : Nat)
    (context : Context) : remember rules string block offset context =
      { context with recorded := (remember rules string block offset context).recorded } := by
  unfold remember
  split <;> rfl

/-- A match is recorded if there is room for it. -/
theorem addMatch_cases (string : Nat) (found : Match) (context : Context) :
    (context.hasRoom string = true ∧ ∃ registry, Context.addMatch string found context =
        .ok () { context.append string found with registry }) ∨
      Context.addMatch string found context = .error .insufficientMemory context := by
  rw [Context.addMatch]
  split
  · rename_i room
    refine .inl ⟨room, ?_⟩
    split
    · exact ⟨_, rfl⟩
    · exact ⟨_, rfl⟩
  · exact .inr rfl

section

variable (excerpt : Excerpt selected whole part) (echo : Echo selected whole part first second)
include excerpt echo

section

variable {index number : Nat} (listed : selected[index]? = some number)
include listed

theorem Echo.remember (block : Block) (offset : Nat) :
    Echo selected whole part (remember whole number block offset first)
      (remember part index block offset second) := by
  have recorded : ∀ (other another : Nat), selected[other]? = some another → ∀ base place,
      (other, base, place) ∈ (Scan.remember part index block offset second).recorded ↔
        (another, base, place) ∈ (Scan.remember whole number block offset first).recorded := by
    intro other another listed' base place
    rw [mem_recorded_remember, mem_recorded_remember, echo.recorded other another listed',
      excerpt.mixed index number listed, eq_iff_of_listed excerpt.distinct listed' listed]
  rw [remember_eq whole, remember_eq part]
  exact { echo with recorded }

theorem Echo.addMatch (found : Match) :
    Leads (fun _ _ => Echo selected whole part) (Context.addMatch number found first)
      (Context.addMatch index found second) := by
  obtain ⟨string, twin, isString, isTwin, _⟩ := excerpt.alike index number listed
  have within : number < first.lists.size := by
    rw [echo.sizes.1]
    exact (Array.getElem?_eq_some_iff.mp isString).1
  have within' : index < second.lists.size := by
    rw [echo.sizes.2]
    exact (Array.getElem?_eq_some_iff.mp isTwin).1
  rcases addMatch_cases number found first with ⟨room, registry, added⟩ | failed
  · have room' : second.hasRoom index = true := by
      simp only [Context.hasRoom, Bool.and_eq_true, decide_eq_true_eq] at room ⊢
      rw [echo.matchCount_eq listed]
      exact ⟨room.1, Nat.lt_of_le_of_lt echo.total room.2⟩
    rcases addMatch_cases index found second with ⟨_, registry', added'⟩ | failed
    · rw [added, added']
      refine .ok ?_
      have appended := first.appended_append found within
      have appended' := second.appended_append found within'
      refine { echo with sizes := ?_, found := ?_, total := Nat.succ_le_succ echo.total }
      · exact ⟨appended.size_lists.trans echo.sizes.1, appended'.size_lists.trans echo.sizes.2⟩
      · intro other another listed'
        have same := eq_iff_of_listed excerpt.distinct listed listed'
        change (second.append index found).matchesOf other = (first.append number found).matchesOf another
        by_cases isIndex : index = other
        · have isNumber := same.mp isIndex
          rw [← isIndex, ← isNumber, appended.same, appended'.same, echo.found index number listed]
        · rw [appended'.other other isIndex, appended.other another (mt same.mpr isIndex),
            echo.found other another listed']
    · rw [Context.addMatch, if_pos room'] at failed
      split at failed <;> cases failed
  · rw [failed]
    exact .error _ _ _

theorem Echo.confirm (block : Block) (offset : Nat) :
    Leads (fun _ _ => Echo selected whole part) (confirm whole number block offset first)
      (confirm part index block offset second) := by
  obtain ⟨string, twin, isString, isTwin, alike⟩ := excerpt.alike index number listed
  rw [Scan.confirm, Scan.confirm, isString, isTwin]
  dsimp only
  rw [echo.isSettled_eq listed, echo.isKnown_eq excerpt listed, StringDef.matchLength?_eq alike]
  split
  · exact .ok echo
  · split
    · exact .ok echo
    · exact (echo.remember excerpt listed block offset).addMatch excerpt listed _

theorem Echo.verify (block : Block) (offset : Nat) :
    Leads (fun _ _ => Echo selected whole part) (Scan.verify whole number block offset first)
      (Scan.verify part index block offset second) := by
  rw [← verifyBy_mixed, ← verifyBy_mixed]
  unfold verifyBy
  rw [echo.flags]
  split
  · have looked : Echo selected whole part first.looked second.looked := { echo with }
    have confirmed := looked.confirm excerpt listed block offset
    change Leads _ (confirmBy whole.hasMixedBacktrack whole number block offset first.looked)
      (confirmBy part.hasMixedBacktrack part index block offset second.looked) at confirmed
    cases ended : confirmBy whole.hasMixedBacktrack whole number block offset first.looked with
    | error error after => exact .error _ _ _
    | ok _ after =>
        obtain ⟨_, after', ended', echo'⟩ := confirmed _ _ ended
        rw [ended']
        exact .ok { echo' with }
  · exact echo.confirm excerpt listed block offset

end

end

section

variable (echo : Echo selected whole part first second) {number : Nat} (absent : number ∉ selected)
include echo absent

theorem Echo.addMatch_left (found : Match) :
    Outcome (fun _ after => Echo selected whole part after second) (fun _ _ => True)
      (Context.addMatch number found first) := by
  rcases addMatch_cases number found first with ⟨_, registry, added⟩ | failed
  · rw [added]
    refine { echo with sizes := ⟨?_, echo.sizes.2⟩, found := ?_, total := Nat.le_succ_of_le echo.total }
    · exact Array.size_modify.trans echo.sizes.1
    · intro other another listed
      have different : number ≠ another := fun same =>
        absent (same ▸ List.mem_of_getElem? listed)
      exact (echo.found other another listed).trans
        (Context.matchesOf_append_other first found different).symm
  · rw [failed]
    trivial

theorem Echo.confirm_left (block : Block) (offset : Nat) :
    Outcome (fun _ after => Echo selected whole part after second) (fun _ _ => True)
      (Scan.confirm whole number block offset first) := by
  unfold Scan.confirm
  split
  · trivial
  · split
    · exact echo
    · split
      · exact echo
      · refine Echo.addMatch_left ?_ absent _
        have recorded : ∀ (other another : Nat), selected[other]? = some another → ∀ base place,
            (other, base, place) ∈ second.recorded ↔
              (another, base, place) ∈ (Scan.remember whole number block offset first).recorded := by
          intro other another listed base place
          have different : another ≠ number := fun same =>
            absent (same ▸ List.mem_of_getElem? listed)
          simp only [mem_recorded_remember, different, false_and, and_false, or_false]
          exact echo.recorded other another listed base place
        rw [remember_eq whole]
        exact { echo with recorded }

theorem Echo.verify_left (block : Block) (offset : Nat) :
    Outcome (fun _ after => Echo selected whole part after second) (fun _ _ => True)
      (Scan.verify whole number block offset first) := by
  rw [← verifyBy_mixed]
  unfold verifyBy
  split
  · have looked : Echo selected whole part first.looked second := { echo with }
    have confirmed := looked.confirm_left absent block offset
    change Outcome _ _ (confirmBy whole.hasMixedBacktrack whole number block offset first.looked)
      at confirmed
    cases ended : confirmBy whole.hasMixedBacktrack whole number block offset first.looked with
    | error error after => trivial
    | ok _ after =>
        rw [ended] at confirmed
        exact { confirmed with }
  · exact echo.confirm_left absent block offset

end

/-! ## All candidates -/

section

variable (excerpt : Excerpt selected whole part)
include excerpt

theorem Echo.confirmAll {candidates twins : List Candidate}
    (chosen : Chosen (Automaton.CandidateTwin selected)
      (fun candidate => selected.idxOf? candidate.string = none) candidates twins)
    (echo : Echo selected whole part first second) (block : Block) (position : Nat) :
    Leads (fun _ _ => Echo selected whole part) (confirmAll whole block position candidates first)
      (confirmAll part block position twins second) := by
  induction chosen generalizing first second with
  | nil => exact .ok echo
  | @kept candidate twin candidates twins isTwin _ ih =>
      have listed := (idxOf?_eq_some_iff excerpt.distinct).mp isTwin.string
      rw [Scan.confirmAll, Scan.confirmAll, isTwin.backtrack]
      split
      · apply (echo.verify excerpt listed block _).bind
        intro _ _ first second echo
        apply (ih echo).bind
        intro _ _ first second echo
        exact .ok echo
      · exact ih echo
  | @passed candidate candidates twins isPassed _ ih =>
      have absent := List.idxOf?_eq_none_iff.mp isPassed
      rw [Scan.confirmAll]
      split
      · intro count after ended
        obtain ⟨_, middle, verified, ended⟩ := bind_state_eq_ok ended
        have echo' := echo.verify_left absent block (position - candidate.backtrack.toNat)
        rw [verified] at echo'
        obtain ⟨more, _, ended, same⟩ := bind_state_eq_ok ended
        cases same
        exact ih echo' more after ended
      · exact ih echo

/-- After the same bytes, the automata of both scans go on alike. -/
theorem Echo.walk (echo : Echo selected whole part first second) (block : Block) (left : Nat)
    (text : Word) (position count count' : Nat) :
    Leads (fun _ _ => Echo selected whole part)
      (walk whole block left position (text.foldl whole.automaton.step Automaton.root) count first)
      (walk part block left position (text.foldl part.automaton.step Automaton.root) count' second) := by
  induction left generalizing text position count count' first second with
  | zero =>
      apply (echo.confirmAll excerpt (excerpt.candidates text) block position).bind
      intro _ _ first second echo
      exact .ok echo
  | succ left ih =>
      have goesOn {first second : Context} (echo : Echo selected whole part first second) :=
        ih echo (text ++ [byteAt block.data position]) (position + 1)
      simp only [List.foldl_append, List.foldl_cons, List.foldl_nil] at goesOn
      have next {first second : Context} (echo : Echo selected whole part first second) :=
        (echo.confirmAll excerpt (excerpt.candidates text) block position).bind
          fun more more' _ _ echo => goesOn echo (count + more) (count' + more')
      rw [Scan.walk, Scan.walk]
      split
      · rw [bind_of_ok (checkDeadline_unlimited echo.unlimited.1),
          bind_of_ok (checkDeadline_unlimited echo.unlimited.2)]
        exact next echo
      · exact next echo

omit excerpt in
theorem Echo.detectEntryPoint (echo : Echo selected whole part first second) (block : Block) :
    Echo selected whole part (detectEntryPoint block first) (detectEntryPoint block second) := by
  unfold Scan.detectEntryPoint
  rw [echo.entryPoint, echo.flags]
  split
  · exact echo
  · split
    · exact { echo with entryPoint := rfl }
    · exact echo

theorem Echo.scanBlocks (echo : Echo selected whole part first second) (blocks : List Block) :
    Leads (fun _ _ => Echo selected whole part) (scanBlocks whole blocks first)
      (scanBlocks part blocks second) := by
  induction blocks generalizing first second with
  | nil => exact .ok echo
  | cons block blocks ih =>
      have walked := (echo.detectEntryPoint block).walk excerpt block block.data.size [] 0 0 0
      cases ended : scanBlock whole block (Scan.detectEntryPoint block first) with
      | ok count middle =>
          obtain ⟨_, _, ended', echo'⟩ := walked _ _ ended
          rw [scanBlocks_cons ended, scanBlocks_cons ended']
          exact ih echo'
      | error error middle =>
          rintro value after impossible
          change EStateM.bind (EStateM.map (fun _ => ()) (scanBlock whole block))
            (fun _ => Scan.scanBlocks whole blocks) (Scan.detectEntryPoint block first) = _ at impossible
          rw [EStateM.bind, EStateM.map, ended] at impossible
          cases impossible

end

/-! ## Fresh scans -/

theorem echo_start (whole part : RuleSet) (selected : List Nat) (objects : List (String × Value))
    (slot slot' : Nat) (flags : ScanFlags) (fileSize : UInt64) (clock clock' : Clock) :
    Echo selected whole part (start whole objects slot flags fileSize 0 clock)
      (start part objects slot' flags fileSize 0 clock') where
  flags := rfl
  unlimited := ⟨rfl, rfl⟩
  fileSize := rfl
  entryPoint := rfl
  objects := rfl
  sizes := ⟨Array.size_replicate, Array.size_replicate⟩
  found := by
    intro index number _
    rw [matchesOf_started, matchesOf_started]
  recorded := by
    intro index number _ base offset
    exact iff_of_false Std.HashSet.not_mem_emptyWithCapacity Std.HashSet.not_mem_emptyWithCapacity
  total := Nat.le_refl _

/-- A search for some strings only finds the same of them, and leaves alone what the other one does. -/
theorem search_echoes (excerpt : Excerpt selected whole part)
    (externals : part.externals = whole.externals) {slot : Nat} {flags : ScanFlags}
    {fileSize : UInt64} {clock : Clock} {blocks : List Block}
    (searched : search whole blocks (.new whole slot flags fileSize 0 clock) = .ok () first)
    (slot' : Nat) (clock' : Clock) :
    ∃ second, search part blocks (.new part slot' flags fileSize 0 clock') = .ok () second ∧
      Echo selected whole part first second ∧ Unjudged whole first ∧ Unjudged part second := by
  obtain ⟨_, bound, binding, _⟩ := bind_state_eq_ok searched
  obtain ⟨objects, binds⟩ := bindExternals_eq_ok binding
  have begins (rules : RuleSet) (same : rules.externals = whole.externals) (slot : Nat)
      (clock : Clock) : search rules blocks (.new rules slot flags fileSize 0 clock) =
        scanBlocks rules blocks (start rules objects slot flags fileSize 0 clock) := by
    rw [search, same, bind_of_ok (binds (.new rules slot flags fileSize 0 clock) rfl)]
    rfl
  rw [begins whole rfl] at searched
  have echo := echo_start whole part selected objects slot slot' flags fileSize clock clock'
  obtain ⟨_, second, searched', echo'⟩ := echo.scanBlocks excerpt blocks _ _ searched
  have unjudged (rules : RuleSet) (slot : Nat) (clock : Clock) :
      Unjudged rules (start rules objects slot flags fileSize 0 clock) := ⟨rfl, rfl⟩
  exact ⟨second, (begins part externals slot' clock').trans searched', echo',
    (unjudged whole slot clock).of_untouched (untouched_of_scanBlocks searched),
    (unjudged part slot' clock').of_untouched (untouched_of_scanBlocks searched')⟩

end ByteScan.Scan
