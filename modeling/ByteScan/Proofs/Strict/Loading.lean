import ByteScan.Proofs.RuleSet.Consistency
import ByteScan.Proofs.Strict.Reading
import ByteScan.Proofs.Strict.Tables

/-!
# Loading without reaching beyond

Whatever a compiled rule file holds, it is read without reaching beyond it, and it is refused or
gives a rule set whose numbers all mean something: `read_ran`.
-/

namespace ByteScan.Strict

def openTables (tables : Tables) (states : Nat) (make : Automaton → RuleSet) :
    ExceptT Error Option RuleSet := do
  let _ ← demand (check tables)
  match Automaton.ofTables tables with
  | .error fault => throw (.corrupt (.tables fault))
  | .ok automaton =>
    if automaton.stateCount ≠ states then some (RuleFile.damaged .stateCount)
    else pure (make automaton)

def read (bytes : List UInt8) : ExceptT Error Option RuleSet := do
  let started ← takeMagic bytes
  let header ← takeHeader started.2
  let counts := header.1
  let spaces ← takeItems .spaces 4 counts.spaces (takeText .spaceName) header.2
  let rules ← takeItems .rules 17 counts.rules (takeRule spaces.1.size counts.strings) spaces.2
  let strings ← takeItems .strings 10 counts.strings (takeString rules.1.size) rules.2
  let externals ← takeItems .externals 5 counts.externals takeExternal strings.2
  let cells ← takeItems .cells 12 counts.cells takeCell externals.2
  let heads ← takeMany (takeOptional .heads) counts.cells #[] cells.2
  let candidates ← takeItems .candidates 10 counts.candidates takeCandidate heads.2
  let code ← takeBytes .code counts.code candidates.2
  if !code.2.isEmpty then some (RuleFile.damaged .trailingData)
  else if counts.code ≤ counts.codeStart then some (RuleFile.damaged .codeStart)
  else
    openTables ⟨cells.1, heads.1, candidates.1, strings.1.size⟩ counts.states fun automaton => {
      spaces := spaces.1, rules := rules.1, strings := strings.1,
      externals := externals.1.toList, automaton, code := code.1, codeStart := counts.codeStart }

/-- Whatever a compiled rule file holds, reading it does not reach beyond it. The file is refused, or
all numbers in the rule set mean something. -/
theorem read_ran (bytes : List UInt8) :
    Ran Error.IsRefusal (read bytes) (RuleFile.read bytes) RuleSet.Consistent := by
  apply (takeMagic_follows bytes).bind
  rintro ⟨_, bytes⟩ _
  apply (takeHeader_follows bytes).bind
  rintro ⟨header, bytes⟩ fits
  apply (takeItems_follows (takeText_follows .spaceName) .spaces 4 header.spaces bytes).bind
  rintro ⟨spaces, bytes⟩ _
  apply (takeItems_follows (takeRule_follows spaces.size header.strings) .rules 17 header.rules
    bytes).bind
  rintro ⟨rules, bytes⟩ ⟨_, inside⟩
  apply (takeItems_follows (takeString_follows rules.size) .strings 10 header.strings bytes).bind
  rintro ⟨strings, bytes⟩ ⟨stringCount, inRules⟩
  apply (takeItems_follows takeExternal_follows .externals 5 header.externals bytes).bind
  rintro ⟨externals, bytes⟩ _
  apply (takeItems_follows takeCell_follows .cells 12 header.cells bytes).bind
  rintro ⟨cells, bytes⟩ ⟨cellCount, _⟩
  apply (takeMany_follows (takeOptional_follows .heads) header.cells good_of_mem_empty bytes).bind
  rintro ⟨heads, bytes⟩ _
  apply (takeItems_follows takeCandidate_follows .candidates 10 header.candidates bytes).bind
  rintro ⟨candidates, bytes⟩ _
  apply (takeBytes_follows .code header.code bytes).bind
  rintro ⟨code, bytes⟩ codeLength
  dsimp only at *
  by_cases trailing : (!bytes.isEmpty) = true
  · rw [if_pos trailing, if_pos trailing]
    exact ⟨rfl, trivial⟩
  rw [if_neg trailing, if_neg trailing]
  by_cases beyond : header.code ≤ header.codeStart
  · rw [if_pos beyond, if_pos beyond]
    exact ⟨rfl, trivial⟩
  rw [if_neg beyond, if_neg beyond]
  -- The header counts the cells in a word, so depths fit in words.
  have strict : check ⟨cells, heads, candidates, strings.size⟩ =
      some (Tables.check ⟨cells, heads, candidates, strings.size⟩) := by
    apply Tables.check_strict
    dsimp only
    omega
  rw [openTables, demand_bind strict]
  cases opened : Automaton.ofTables ⟨cells, heads, candidates, strings.size⟩ with
  | error fault => exact ⟨rfl, trivial⟩
  | ok automaton =>
      dsimp only
      by_cases differ : automaton.stateCount ≠ header.states
      · rw [if_pos differ, if_pos differ]
        exact ⟨rfl, trivial⟩
      · rw [if_neg differ, if_neg differ]
        refine ⟨rfl, ?_, ?_, inRules, ?_, ?_⟩
        · intro rule member
          exact (inside rule member).1
        · intro rule member string own
          rw [stringCount]
          exact (inside rule member).2 string own
        · rw [Automaton.toTables_of_ofTables opened]
        · rw [codeLength]
          exact Nat.lt_of_not_le beyond

end ByteScan.Strict

namespace ByteScan.RuleSet

/-- A rule set that was compiled or loaded, and whose external variables may have been given other
values. -/
inductive Obtained : RuleSet → Prop where
  | built {collection : Collection} {rules : RuleSet} (compiled : collection.compile = .ok rules) :
    Obtained rules
  | loaded {bytes : List UInt8} {rules : RuleSet} (accepted : RuleFile.read bytes = .ok rules) :
    Obtained rules
  | redefined {before after : RuleSet} (earlier : Obtained before)
    (redefines : before.Redefines after) : Obtained after

theorem Obtained.consistent {rules : RuleSet} (obtained : rules.Obtained) : rules.Consistent := by
  induction obtained with
  | built compiled => exact Collection.consistent compiled
  | @loaded bytes _ accepted =>
      have outcome := (Strict.read_ran bytes).2
      rwa [accepted] at outcome
  | redefined _ redefines before => exact before.redefine redefines

end ByteScan.RuleSet
