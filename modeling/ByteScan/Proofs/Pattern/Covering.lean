import ByteScan.Proofs.Pattern.Standing
import Mathlib.Data.List.Nodup

/-!
# Atoms cover their string

The atoms that are looked for to find a string are short, none of them reaches back beyond the start
of the string, and no two are the same, since the bytes of an atom tell its distance as well. One of
them stands wherever a text or hex pattern occurs: `ofString_covers`.
-/

namespace ByteScan

namespace Atom

variable {string : StringDef} {nocase : Bool} {bytes : List UInt8} {atom : Atom}

/-! ## Short atoms -/

/-- The bytes of an atom are few, and they do not begin before the string does. -/
structure IsShort (atom : Atom) : Prop where
  length_le : atom.bytes.length ≤ lengthLimit
  reach : atom.bytes.length ≤ atom.backtrack.toNat

theorem everywhere_isShort : everywhere.IsShort := ⟨Nat.zero_le _, Nat.zero_le _⟩

/-- The atoms of bytes at the start of a string are as long as these bytes, and end where they do. -/
theorem length_of_mem_ofForms (listed : atom ∈ ofForms nocase bytes) :
    atom.bytes.length = bytes.length ∧ atom.backtrack.toNat = atom.bytes.length := by
  rw [ofForms_eq] at listed
  obtain ⟨form, isForm, made⟩ := List.mem_filterMap.mp listed
  obtain ⟨rfl, distance⟩ := at?_eq_some made
  rw [Nat.zero_add] at distance
  exact ⟨length_of_mem_formsOf isForm, distance⟩

theorem isShort_of_mem_ofForms (short : bytes.length ≤ lengthLimit)
    (listed : atom ∈ ofForms nocase bytes) : atom.IsShort := by
  obtain ⟨length, distance⟩ := length_of_mem_ofForms listed
  exact ⟨length.trans_le short, distance.ge⟩

theorem isShort_of_ofHex? {pattern : List MaskedByte} (chosen : ofHex? pattern = some atom) :
    atom.IsShort := by
  simp only [ofHex?] at chosen
  split at chosen
  · cases chosen
  · obtain ⟨same, distance⟩ := at?_eq_some chosen
    refine ⟨?_, ?_⟩
    · rw [same]
      exact List.length_take_le _ _
    · rw [same, distance]
      exact Nat.le_add_left _ _

theorem length_widen_take_le (text : List UInt8) :
    (widen (text.take (lengthLimit / 2))).length ≤ lengthLimit := by
  have count := List.length_take_le (lengthLimit / 2) text
  rw [length_widen]
  simp only [lengthLimit] at count ⊢
  omega

/-- Of a text or a regular expression the atoms are forms of its first bytes, so each of them ends as
far from the start as it is long. -/
theorem length_of_mem_candidates (listed : atom ∈ candidates string)
    (isForms : ∀ pattern, string.pattern ≠ .hex pattern) :
    atom.backtrack.toNat = atom.bytes.length := by
  obtain ⟨identifier, rule, modifiers, pattern⟩ := string
  cases pattern with
  | hex pattern => exact absurd rfl (isForms pattern)
  | regex regex => exact (length_of_mem_ofForms listed).2
  | text text =>
      rcases List.mem_append.mp listed with inNarrow | inWide
      · split at inNarrow
        · exact (length_of_mem_ofForms inNarrow).2
        · cases inNarrow
      · split at inWide
        · exact (length_of_mem_ofForms inWide).2
        · cases inWide

theorem isShort_of_mem_candidates (listed : atom ∈ candidates string) : atom.IsShort := by
  obtain ⟨identifier, rule, modifiers, pattern⟩ := string
  cases pattern with
  | hex pattern => exact isShort_of_ofHex? (Option.mem_toList.mp listed)
  | regex regex => exact isShort_of_mem_ofForms (List.length_take_le _ _) listed
  | text text =>
      rcases List.mem_append.mp listed with inNarrow | inWide
      · split at inNarrow
        · exact isShort_of_mem_ofForms (List.length_take_le _ _) inNarrow
        · cases inNarrow
      · split at inWide
        · exact isShort_of_mem_ofForms (length_widen_take_le text) inWide
        · cases inWide

/-! ## Different atoms -/

/-- No two atoms of a string have the same bytes at different distances. -/
theorem eq_of_mem_candidates {first second : Atom} (inFirst : first ∈ candidates string)
    (inSecond : second ∈ candidates string) (same : first.bytes = second.bytes) : first = second := by
  by_cases isHex : ∃ pattern, string.pattern = .hex pattern
  · obtain ⟨pattern, isHex⟩ := isHex
    rw [candidates, isHex] at inFirst inSecond
    have chosen := Option.mem_toList.mp inFirst
    exact Option.some.inj (chosen.symm.trans (Option.mem_toList.mp inSecond))
  · have isForms := not_exists.mp isHex
    have distance := congrArg List.length same
    rw [← length_of_mem_candidates inFirst isForms, ← length_of_mem_candidates inSecond isForms]
      at distance
    obtain ⟨bytes, backtrack⟩ := first
    obtain rfl : bytes = second.bytes := same
    obtain rfl : backtrack = second.backtrack := UInt16.toNat_inj.mp distance
    rfl

/-- Of atoms in the order of their bytes each is left once, if their bytes tell them apart. -/
theorem nodup_dropRepeated {atoms : List Atom}
    (ordered : atoms.Pairwise fun first second => first.bytes ≤ second.bytes)
    (keyed : ∀ first ∈ atoms, ∀ second ∈ atoms, first.bytes = second.bytes → first = second) :
    (dropRepeated atoms).Nodup := by
  fun_induction dropRepeated atoms with
  | case1 second atoms ih =>
      exact ih (List.pairwise_cons.mp ordered).2 fun first inFirst second inSecond =>
        keyed first (List.mem_cons_of_mem _ inFirst) second (List.mem_cons_of_mem _ inSecond)
  | case2 first second atoms different ih =>
      obtain ⟨before, rest⟩ := List.pairwise_cons.mp ordered
      refine List.nodup_cons.mpr ⟨?_, ih rest fun first inFirst second inSecond =>
        keyed first (List.mem_cons_of_mem _ inFirst) second (List.mem_cons_of_mem _ inSecond)⟩
      intro again
      have later := (mem_dropRepeated first _).mp again
      -- An atom that came again would stand on either side of its neighbour, which has its bytes then.
      have after : second.bytes ≤ first.bytes := by
        rcases List.mem_cons.mp later with rfl | later
        · exact absurd rfl different
        · exact (List.pairwise_cons.mp rest).1 first later
      have isSecond : second ∈ first :: second :: atoms :=
        List.mem_cons_of_mem _ (List.mem_cons_self ..)
      exact different (keyed first (List.mem_cons_self ..) second isSecond
        (List.le_antisymm (before second (List.mem_cons_self ..)) after))
  | case3 atoms short =>
      cases atoms with
      | nil => exact List.nodup_nil
      | cons atom rest =>
          cases rest with
          | nil => exact List.pairwise_singleton ..
          | cons next rest => exact absurd rfl (short atom next rest)

theorem nodup_sorted_candidates (string : StringDef) : (sorted (candidates string)).Nodup := by
  refine nodup_dropRepeated ?_ fun first inFirst second inSecond =>
    eq_of_mem_candidates (List.mem_mergeSort.mp inFirst) (List.mem_mergeSort.mp inSecond)
  refine (List.pairwise_mergeSort ?_ ?_ _).imp of_decide_eq_true
  · intro first second third before after
    exact decide_eq_true (List.le_trans (of_decide_eq_true before) (of_decide_eq_true after))
  · intro first second
    rw [Bool.or_eq_true, decide_eq_true_eq, decide_eq_true_eq]
    exact List.le_total first.bytes second.bytes

/-! ## The atoms that are looked for -/

theorem ofString_cases (string : StringDef) :
    ofString string = [everywhere] ∨
      ofString string = sorted (candidates string) ∧ ofString string ≠ [] ∧
        ∀ atom ∈ ofString string, atom.bytes ≠ [] := by
  rw [ofString]
  split
  · exact .inl rfl
  · rename_i usable
    rw [Bool.not_eq_true, Bool.or_eq_false_iff, List.isEmpty_eq_false_iff, List.any_eq_false]
      at usable
    exact .inr ⟨rfl, usable.1, fun atom listed empty =>
      usable.2 atom listed (List.isEmpty_iff.mpr empty)⟩

theorem nodup_ofString (string : StringDef) : (ofString string).Nodup := by
  rcases ofString_cases string with alone | ⟨same, _, _⟩
  · rw [alone]
    exact List.pairwise_singleton ..
  · rw [same]
    exact nodup_sorted_candidates string

theorem isShort_of_mem_ofString (listed : atom ∈ ofString string) : atom.IsShort := by
  rcases ofString_cases string with alone | ⟨same, _, _⟩
  · rw [alone] at listed
    rw [List.mem_singleton.mp listed]
    exact everywhere_isShort
  · rw [same, mem_sorted] at listed
    exact isShort_of_mem_candidates listed

theorem IsShort.extract_of_standsAt {data : ByteArray} {offset : Nat} (short : atom.IsShort)
    (stands : atom.StandsAt data offset) :
    (data.extract (offset + atom.backtrack.toNat - atom.bytes.length)
      (offset + atom.backtrack.toNat)).data.toList = atom.bytes := by
  obtain ⟨inside, ends⟩ := stands
  have reach := short.reach
  have whole : (data.data.toList.take (offset + atom.backtrack.toNat)).length =
      offset + atom.backtrack.toNat := by
    rw [List.length_take, Array.length_toList]
    exact Nat.min_eq_left inside
  rw [ByteArray.data_extract, Array.toList_extract, List.extract_eq_take_drop, ← List.drop_take]
  rw [List.suffix_iff_eq_drop, whole] at ends
  exact ends.symm

/-- Some atoms are looked for to find a string, each of them once. An atom has at most four bytes, all of
them at or behind the start of the string, and there is one without bytes only if it is the only one.
Wherever a text or hex pattern occurs, the data has the bytes of one of its atoms at the distance of
the atom. -/
theorem ofString_covers (string : StringDef) :
    ofString string ≠ [] ∧ (ofString string).Nodup ∧
    (∀ atom ∈ ofString string,
      atom.bytes.length ≤ 4 ∧ atom.bytes.length ≤ atom.backtrack.toNat) ∧
    (ofString string = [⟨[], 0⟩] ∨ ∀ atom ∈ ofString string, atom.bytes ≠ []) ∧
    ((∀ regex, string.pattern ≠ .regex regex) →
      ∀ (data : ByteArray) (offset length : Nat), string.matchLength? data offset = some length →
        ∃ atom ∈ ofString string,
          offset + atom.backtrack.toNat ≤ data.size ∧
            (data.extract (offset + atom.backtrack.toNat - atom.bytes.length)
              (offset + atom.backtrack.toNat)).data.toList = atom.bytes) := by
  refine ⟨?_, nodup_ofString string, ?_, ?_, ?_⟩
  · rcases ofString_cases string with alone | ⟨_, filled, _⟩
    · rw [alone]
      exact List.cons_ne_nil _ _
    · exact filled
  · intro atom listed
    have short := isShort_of_mem_ofString listed
    exact ⟨short.length_le, short.reach⟩
  · exact (ofString_cases string).imp id fun ⟨_, _, filled⟩ => filled
  · intro plain data offset length occurs
    obtain ⟨atom, listed, stands⟩ := StringDef.hinted_of_matchLength? plain occurs
    exact ⟨atom, listed, stands.1, (isShort_of_mem_ofString listed).extract_of_standsAt stands⟩

/-- A text in either case and in wide form: where it occurs in wide form, one of its atoms stands. -/
theorem ofString_covers_wide :
    let string : StringDef := ⟨"a", 0, { nocase := true, ascii := true, wide := true },
      .text [0x41, 0x62]⟩
    let data : ByteArray := ⟨#[0x78, 0x61, 0, 0x42, 0]⟩
    (∀ regex, string.pattern ≠ .regex regex) ∧ string.matchLength? data 1 = some 4 ∧
      ∃ atom ∈ ofString string,
        1 + atom.backtrack.toNat ≤ 5 ∧
          (data.extract (1 + atom.backtrack.toNat - atom.bytes.length)
            (1 + atom.backtrack.toNat)).data.toList = atom.bytes := by
  intro string data
  have plain (regex : Regex string.modifiers.nocase) : string.pattern ≠ .regex regex := by
    intro isRegex
    cases isRegex
  have occurs : string.matchLength? data 1 = some 4 := by decide
  exact ⟨plain, occurs, (ofString_covers string).2.2.2.2 plain data 1 4 occurs⟩

end Atom

end ByteScan
