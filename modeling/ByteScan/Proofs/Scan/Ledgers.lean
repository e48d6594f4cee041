import ByteScan.Proofs.Unrepeated
import ByteScan.Scan.Match
import Mathlib.Data.List.Perm.Subperm

/-!
# Lists of matches in one arena

The lists of all strings can share one arena of records: each record has the number of the next one of
its string, and of each string the numbers of its first and last record are known. All of this is
determined by the matches in the order in which they were added: `recordsFrom` are the records,
`chainOf` is what is known of a string. This module says how they change when a match is added.
-/

namespace ByteScan

/-- Some matches with their strings, in the order in which they were added. -/
abbrev Ledger := List (Nat × Match)

/-- A match, and the number of the record of the next match of the same string. -/
structure Record where
  found : Match
  next : Option Nat

structure Chain where
  head : Option Nat
  tail : Option Nat
  count : Nat

namespace Chain

def empty : Chain := ⟨none, none, 0⟩

def extend (chain : Chain) (number : Nat) : Chain :=
  ⟨chain.head.or (some number), some number, chain.count + 1⟩

end Chain

namespace Ledger

def matchesOf (ledger : Ledger) (string : Nat) : List Match :=
  (ledger.filter fun entry => entry.1 = string).map Prod.snd

def strings (ledger : Ledger) : List Nat := (ledger.map Prod.fst).eraseDups

/-- The number of the first match of a string, where the matches are numbered from `start` on. -/
def firstFrom (string : Nat) : Nat → Ledger → Option Nat
  | _, [] => none
  | start, entry :: ledger =>
    if entry.1 = string then some start else firstFrom string (start + 1) ledger

def Precedes (ledger : Ledger) (earlier later : Nat) : Prop :=
  ∃ first second, firstFrom earlier 0 ledger = some first ∧
    firstFrom later 0 ledger = some second ∧ first < second

def lastFrom (string : Nat) : Nat → Ledger → Option Nat
  | _, [] => none
  | start, entry :: ledger =>
    (lastFrom string (start + 1) ledger).or (if entry.1 = string then some start else none)

/-- The records of some matches, each with the number of the next match of its string. -/
def recordsFrom : Nat → Ledger → List Record
  | _, [] => []
  | start, entry :: ledger =>
    ⟨entry.2, firstFrom entry.1 (start + 1) ledger⟩ :: recordsFrom (start + 1) ledger

def chainOf (ledger : Ledger) (string : Nat) : Chain :=
  ⟨firstFrom string 0 ledger, lastFrom string 0 ledger, (ledger.matchesOf string).length⟩

variable {ledger : Ledger} {string : Nat} {found : Match} {start : Nat}

theorem matchesOf_cons_same : matchesOf ((string, found) :: ledger) string =
    found :: matchesOf ledger string := by simp [matchesOf]

theorem matchesOf_cons_other {entry : Nat × Match} (other : entry.1 ≠ string) :
    matchesOf (entry :: ledger) string = matchesOf ledger string := by simp [matchesOf, other]

theorem matchesOf_concat_same :
    matchesOf (ledger ++ [(string, found)]) string = matchesOf ledger string ++ [found] := by
  simp [matchesOf]

theorem matchesOf_concat_other {other : Nat} (different : other ≠ string) :
    matchesOf (ledger ++ [(other, found)]) string = matchesOf ledger string := by
  simp [matchesOf, different]

theorem mem_strings_iff : string ∈ strings ledger ↔ matchesOf ledger string ≠ [] := by
  simp [strings, matchesOf, List.mem_eraseDups]

theorem strings_concat : strings (ledger ++ [(string, found)]) =
    if matchesOf ledger string = [] then strings ledger ++ [string] else strings ledger := by
  have known : string ∈ ledger.map Prod.fst ↔ matchesOf ledger string ≠ [] := by
    rw [← mem_strings_iff, strings, List.mem_eraseDups]
  rw [strings, List.map_append, List.map_singleton, eraseDups_concat]
  by_cases unmatched : matchesOf ledger string = []
  · rw [if_pos unmatched, if_neg (mt known.mp (not_not_intro unmatched)), strings]
  · rw [if_neg unmatched, if_pos (known.mpr unmatched), strings]

theorem length_strings_le : (strings ledger).length ≤ ledger.length := by
  have inside : strings ledger ⊆ ledger.map Prod.fst := fun _ => List.mem_eraseDups.mp
  have few := (List.Nodup.subperm (eraseDups_nodup _) inside).length_le
  rwa [List.length_map] at few

theorem length_recordsFrom : (recordsFrom start ledger).length = ledger.length := by
  induction ledger generalizing start with
  | nil => rfl
  | cons entry ledger ih => rw [recordsFrom, List.length_cons, List.length_cons, ih]

theorem firstFrom_concat (other : Nat) :
    firstFrom string start (ledger ++ [(other, found)]) =
      (firstFrom string start ledger).or
        (if other = string then some (start + ledger.length) else none) := by
  induction ledger generalizing start with
  | nil => simp [firstFrom]
  | cons entry ledger ih =>
      rw [List.cons_append, firstFrom, firstFrom]
      split
      · rfl
      · rw [ih, List.length_cons]
        congr 3
        omega

theorem lastFrom_concat (other : Nat) :
    lastFrom string start (ledger ++ [(other, found)]) =
      if other = string then some (start + ledger.length) else lastFrom string start ledger := by
  induction ledger generalizing start with
  | nil => simp [lastFrom]
  | cons entry ledger ih =>
      rw [List.cons_append, lastFrom, ih, lastFrom, List.length_cons]
      split
      · rw [Option.some_or]
        congr 1
        omega
      · rfl

theorem firstFrom_eq_none_iff :
    firstFrom string start ledger = none ↔ matchesOf ledger string = [] := by
  induction ledger generalizing start with
  | nil => simp [firstFrom, matchesOf]
  | cons entry ledger ih =>
      rw [firstFrom]
      split
      · rename_i same
        simp [matchesOf, same]
      · rename_i other
        rw [ih, matchesOf_cons_other other]

theorem firstFrom_lt {first : Nat} (isFirst : firstFrom string start ledger = some first) :
    first < start + ledger.length := by
  induction ledger generalizing start with
  | nil => cases isFirst
  | cons entry ledger ih =>
      rw [firstFrom] at isFirst
      rw [List.length_cons]
      split at isFirst
      · cases isFirst
        omega
      · have later := ih isFirst
        omega

theorem Precedes.concat {earlier later : Nat} (precedes : Precedes ledger earlier later)
    (entry : Nat × Match) : Precedes (ledger ++ [entry]) earlier later := by
  obtain ⟨first, second, isFirst, isSecond, less⟩ := precedes
  refine ⟨first, second, ?_, ?_, less⟩
  · rw [firstFrom_concat, isFirst, Option.some_or]
  · rw [firstFrom_concat, isSecond, Option.some_or]

theorem strings_ordered (ledger : Ledger) : ledger.strings.Pairwise ledger.Precedes := by
  induction ledger using List.reverseRecOn with
  | nil => exact List.Pairwise.nil
  | append_singleton ledger entry ih =>
      obtain ⟨string, found⟩ := entry
      have before := ih.imp fun precedes => precedes.concat (string, found)
      rw [strings_concat]
      split
      · rename_i unmatched
        refine List.pairwise_append.mpr ⟨before, List.pairwise_singleton .., ?_⟩
        intro earlier listed later isNew
        obtain rfl := List.mem_singleton.mp isNew
        rw [mem_strings_iff] at listed
        cases isFirst : firstFrom earlier 0 ledger with
        | none => exact absurd (firstFrom_eq_none_iff.mp isFirst) listed
        | some first =>
            refine ⟨first, 0 + ledger.length, ?_, ?_, firstFrom_lt isFirst⟩
            · rw [firstFrom_concat, isFirst, Option.some_or]
            · rw [firstFrom_concat, firstFrom_eq_none_iff.mpr unmatched, Option.none_or, if_pos rfl]
      · exact before

theorem lastFrom_eq_none_iff :
    lastFrom string start ledger = none ↔ matchesOf ledger string = [] := by
  induction ledger generalizing start with
  | nil => simp [lastFrom, matchesOf]
  | cons entry ledger ih =>
      rw [lastFrom, Option.or_eq_none_iff, ih]
      by_cases same : entry.1 = string <;> simp [matchesOf, same]

theorem le_lastFrom {last : Nat} (isLast : lastFrom string start ledger = some last) :
    start ≤ last := by
  induction ledger generalizing start with
  | nil => cases isLast
  | cons entry ledger ih =>
      rw [lastFrom, Option.or_eq_some_iff] at isLast
      rcases isLast with later | ⟨_, own⟩
      · exact Nat.le_of_succ_le (ih later)
      · split at own
        · cases own
          exact Nat.le_refl _
        · cases own

theorem recordsFrom_concat_first (unmatched : matchesOf ledger string = []) :
    recordsFrom start (ledger ++ [(string, found)]) = recordsFrom start ledger ++ [⟨found, none⟩] := by
  induction ledger generalizing start with
  | nil => rfl
  | cons entry ledger ih =>
      have other : entry.1 ≠ string := by
        intro same
        simp [matchesOf, same] at unmatched
      rw [matchesOf_cons_other other] at unmatched
      rw [List.cons_append, recordsFrom, recordsFrom, ih unmatched, firstFrom_concat,
        if_neg other.symm, Option.or_none, List.cons_append]

theorem recordsFrom_concat_later {last : Nat} (isLast : lastFrom string start ledger = some last) :
    recordsFrom start (ledger ++ [(string, found)]) =
      (recordsFrom start ledger ++ [(⟨found, none⟩ : Record)]).modify (last - start) fun record =>
        { record with next := some (start + ledger.length) } := by
  induction ledger generalizing start with
  | nil => cases isLast
  | cons entry ledger ih =>
      have number : start + (ledger.length + 1) = start + 1 + ledger.length := by omega
      rw [List.cons_append, recordsFrom, recordsFrom, firstFrom_concat, List.length_cons, number,
        List.cons_append]
      rw [lastFrom] at isLast
      cases later : lastFrom string (start + 1) ledger with
      | none =>
          -- The first record is the last one of the string.
          have unmatched := lastFrom_eq_none_iff.mp later
          rw [later, Option.none_or] at isLast
          split at isLast
          · rename_i same
            cases isLast
            rw [if_pos same.symm, firstFrom_eq_none_iff.mpr (same ▸ unmatched), Option.none_or,
              recordsFrom_concat_first unmatched, Nat.sub_self, List.modify_zero_cons]
          · cases isLast
      | some place =>
          rw [later, Option.some_or] at isLast
          cases isLast
          have after := le_lastFrom later
          -- The string has a later match, so the first record goes on as before.
          have goesOn : (firstFrom entry.1 (start + 1) ledger).or
              (if string = entry.1 then some (start + 1 + ledger.length) else none) =
              firstFrom entry.1 (start + 1) ledger := by
            split
            · rename_i same
              cases next : firstFrom entry.1 (start + 1) ledger with
              | none =>
                  rw [firstFrom_eq_none_iff, ← same] at next
                  rw [lastFrom_eq_none_iff.mpr next] at later
                  cases later
              | some _ => rfl
            · exact Option.or_none
          rw [goesOn, ih later, show last - start = (last - (start + 1)) + 1 by omega,
            List.modify_succ_cons]

theorem chainOf_concat (other : Nat) :
    chainOf (ledger ++ [(string, found)]) other =
      if string = other then (chainOf ledger other).extend ledger.length
      else chainOf ledger other := by
  rw [chainOf, firstFrom_concat, lastFrom_concat, Nat.zero_add]
  split
  · rename_i same
    subst same
    rw [matchesOf_concat_same, List.length_append]
    rfl
  · rename_i different
    rw [matchesOf_concat_other different, Option.or_none]
    rfl

end Ledger

end ByteScan
