import ByteScan.Pattern.Atom
import ByteScan.Pattern.Occurrence
import ByteScan.Proofs.Byte
import Mathlib.Data.List.Infix

/-!
# Atoms stand in every occurrence

`hinted_of_matchLength?` says of texts and hex patterns that wherever one occurs, one of its atoms
stands at its distance. Of a regular expression `hinted_iff_of_regex` says so only where the bytes
that were taken for its first ones do stand.
-/

namespace ByteScan

/-- The bytes of an atom end where they do in a string that begins at an offset. -/
def Atom.StandsAt (atom : Atom) (data : ByteArray) (offset : Nat) : Prop :=
  offset + atom.backtrack.toNat ≤ data.size ∧
    atom.bytes <:+ data.data.toList.take (offset + atom.backtrack.toNat)

/-- One of the atoms of a string tells that it may begin at an offset. -/
def StringDef.Hinted (string : StringDef) (data : ByteArray) (offset : Nat) : Prop :=
  ∃ atom ∈ Atom.ofString string, atom.StandsAt data offset

/-! ## Bytes of data -/

theorem drop_eq_getElem_cons {data : ByteArray} {offset : Nat} (within : offset < data.size) :
    data.data.toList.drop offset = data[offset] :: data.data.toList.drop (offset + 1) := by
  have bound : offset < data.data.toList.length := within
  rw [List.drop_eq_getElem_cons bound]
  rfl

theorem suffix_take_of_prefix_drop {items part : List α} {start : Nat} (filled : part ≠ [])
    (begins : part <+: items.drop start) :
    start + part.length ≤ items.length ∧ part <:+ items.take (start + part.length) := by
  obtain ⟨rest, whole⟩ := begins
  have some : 0 < part.length := List.length_pos_iff.mpr filled
  have count := congrArg List.length whole
  rw [List.length_append, List.length_drop] at count
  refine ⟨by omega, items.take start, ?_⟩
  rw [List.take_add, ← whole, List.take_left]

/-! ## Forms of a text -/

namespace Atom

def formsOf (nocase : Bool) (bytes : List UInt8) : List (List UInt8) :=
  if nocase then casePermutations bytes else [bytes]

theorem ofForms_eq (nocase : Bool) (bytes : List UInt8) :
    ofForms nocase bytes = (formsOf nocase bytes).filterMap fun form => at? form 0 := rfl

theorem formsOf_nil (nocase : Bool) : formsOf nocase [] = [[]] := by
  cases nocase <;> rfl

theorem mem_caseForms {actual expected : UInt8} :
    actual ∈ caseForms expected ↔ Byte.equalIgnoringCase actual expected = true := by
  have actual_lt := actual.toNat_lt
  have expected_lt := expected.toNat_lt
  rw [Byte.equalIgnoringCase_iff]
  simp only [caseForms, Byte.isLetter, Byte.toLower, Byte.toUpper, Byte.isUpper, Byte.isLower,
    Bool.and_eq_true, Bool.or_eq_true, decide_eq_true_eq, UInt8.le_iff_toNat_le, UInt8.reduceToNat]
  split <;> (try split) <;> (try split) <;>
    simp only [List.mem_cons, List.not_mem_nil, or_false, ← UInt8.toNat_inj, UInt8.toNat_add,
      UInt8.toNat_sub, UInt8.reduceToNat] <;>
    omega

theorem cons_mem_formsOf {nocase : Bool} {actual expected : UInt8} {form bytes : List UInt8} :
    actual :: form ∈ formsOf nocase (expected :: bytes) ↔
      sameByte nocase actual expected = true ∧ form ∈ formsOf nocase bytes := by
  cases nocase with
  | false =>
      simp only [formsOf, sameByte, Bool.false_eq_true, if_false, List.mem_singleton, beq_iff_eq]
      exact List.cons_eq_cons
  | true =>
      simp only [formsOf, sameByte, if_true]
      rw [casePermutations, List.mem_flatMap]
      constructor
      · rintro ⟨first, isCase, inRest⟩
        obtain ⟨rest, listed, same⟩ := List.mem_map.mp inRest
        cases same
        exact ⟨mem_caseForms.mp isCase, listed⟩
      · rintro ⟨same, listed⟩
        exact ⟨actual, mem_caseForms.mpr same, List.mem_map_of_mem listed⟩

theorem length_of_mem_formsOf {nocase : Bool} {form bytes : List UInt8}
    (member : form ∈ formsOf nocase bytes) : form.length = bytes.length := by
  cases nocase with
  | false => rw [List.mem_singleton.mp member]
  | true =>
      simp only [formsOf, if_true] at member
      induction bytes generalizing form with
      | nil => rw [List.mem_singleton.mp member]
      | cons byte bytes ih =>
          rw [casePermutations, List.mem_flatMap] at member
          obtain ⟨first, _, inRest⟩ := member
          obtain ⟨rest, listed, rfl⟩ := List.mem_map.mp inRest
          rw [List.length_cons, List.length_cons, ih listed]

end Atom

open Atom

theorem sameByte_zero (nocase : Bool) : sameByte nocase 0 0 = true := by
  cases nocase <;> rfl

/-- A text stands where one of its forms does. -/
theorem textStandsAt_iff_form {nocase : Bool} {data : ByteArray} {text : List UInt8}
    {offset : Nat} : textStandsAt nocase false data text offset = true ↔
      ∃ form ∈ formsOf nocase text, form <+: data.data.toList.drop offset := by
  induction text generalizing offset with
  | nil =>
      rw [formsOf_nil]
      exact ⟨fun _ => ⟨[], List.mem_singleton_self _, List.nil_prefix⟩, fun _ => rfl⟩
  | cons expected text ih =>
      rw [textStandsAt]
      constructor
      · intro stands
        split at stands
        · rename_i within
          simp only [Bool.and_eq_true, byteWidth, Bool.false_eq_true, if_false] at stands
          obtain ⟨⟨same, _⟩, following⟩ := stands
          obtain ⟨form, listed, begins⟩ := ih.mp following
          refine ⟨data[offset] :: form, cons_mem_formsOf.mpr ⟨same, listed⟩, ?_⟩
          rw [drop_eq_getElem_cons within]
          exact List.cons_prefix_cons.mpr ⟨rfl, begins⟩
        · exact absurd stands Bool.false_ne_true
      · rintro ⟨form, listed, begins⟩
        cases form with
        | nil => cases length_of_mem_formsOf listed
        | cons actual form =>
            obtain ⟨same, inRest⟩ := cons_mem_formsOf.mp listed
            have within : offset < data.size := by
              have count := begins.length_le
              rw [List.length_cons, List.length_drop] at count
              change _ ≤ data.size - offset at count
              omega
            rw [drop_eq_getElem_cons within] at begins
            obtain ⟨rfl, following⟩ := List.cons_prefix_cons.mp begins
            rw [dif_pos within, same]
            exact ih.mpr ⟨form, inRest, following⟩

theorem widen_cons (byte : UInt8) (bytes : List UInt8) :
    widen (byte :: bytes) = byte :: 0 :: widen bytes := rfl

/-- Where a text stands in wide form, one of the forms of its wide form does. -/
theorem wide_form_of_textStandsAt {nocase : Bool} {data : ByteArray} {text : List UInt8}
    {offset : Nat} (stands : textStandsAt nocase true data text offset = true) :
    ∃ form ∈ formsOf nocase (widen text), form <+: data.data.toList.drop offset := by
  induction text generalizing offset with
  | nil =>
      refine ⟨[], ?_, List.nil_prefix⟩
      rw [widen, List.flatMap_nil, formsOf_nil]
      exact List.mem_singleton_self _
  | cons expected text ih =>
      rw [textStandsAt] at stands
      split at stands
      · rename_i within
        simp only [Bool.and_eq_true, byteWidth, Bool.not_true, Bool.false_or, if_true, beq_iff_eq]
          at stands
        obtain ⟨⟨same, zero⟩, following⟩ := stands
        obtain ⟨nextWithin, nextZero⟩ := getElem?_eq_some_iff.mp zero
        obtain ⟨form, listed, begins⟩ := ih following
        refine ⟨data[offset] :: 0 :: form, ?_, ?_⟩
        · rw [widen_cons]
          exact cons_mem_formsOf.mpr ⟨same, cons_mem_formsOf.mpr ⟨sameByte_zero nocase, listed⟩⟩
        · rw [drop_eq_getElem_cons within, drop_eq_getElem_cons nextWithin, nextZero]
          exact List.cons_prefix_cons.mpr ⟨rfl, List.cons_prefix_cons.mpr ⟨rfl, begins⟩⟩
      · exact absurd stands Bool.false_ne_true

theorem textStandsAt_take {nocase wide : Bool} {data : ByteArray} {text : List UInt8}
    {offset : Nat} (count : Nat) (stands : textStandsAt nocase wide data text offset = true) :
    textStandsAt nocase wide data (text.take count) offset = true := by
  induction text generalizing offset count with
  | nil => rwa [List.take_nil]
  | cons expected text ih =>
      cases count with
      | zero => rfl
      | succ count =>
          rw [textStandsAt] at stands
          rw [List.take_succ_cons, textStandsAt]
          split at stands
          · rename_i within
            rw [dif_pos within]
            rw [Bool.and_eq_true] at stands ⊢
            exact ⟨stands.1, ih count stands.2⟩
          · exact absurd stands Bool.false_ne_true

/-! ## Fixed runs of a hex pattern -/

def Atom.Run.masked (run : Run) : List MaskedByte :=
  run.reversed.reverse.map fun value => ⟨value, 0xff⟩

def Atom.Run.IsIn (run : Run) (pattern : List MaskedByte) : Prop :=
  run.masked <+: pattern.drop run.start

theorem Atom.Run.longer_isIn {first second : Run} {pattern : List MaskedByte}
    (inFirst : first.IsIn pattern) (inSecond : second.IsIn pattern) :
    (first.longer second).IsIn pattern := by
  rw [longer]
  split
  · exact inSecond
  · exact inFirst

/-- The longest run is part of the pattern: where the bytes from the current run on are the rest of
it. -/
theorem Atom.longestRun_isIn {pattern : List MaskedByte} (rest : List MaskedByte)
    {best current : Run} {index : Nat} (inBest : best.IsIn pattern)
    (left : pattern.drop current.start = current.masked ++ rest)
    (reached : current.start + current.reversed.length = index) :
    (longestRun best current index rest).IsIn pattern := by
  induction rest generalizing best current index with
  | nil =>
      refine Run.longer_isIn inBest ?_
      rw [List.append_nil] at left
      rw [Run.IsIn, left]
  | cons expected rest ih =>
      rw [longestRun]
      split
      · rename_i fixed
        have whole : expected = ⟨expected.value, 0xff⟩ := by
          rw [← eq_of_beq fixed]
        refine ih inBest ?_ (by simp only [List.length_cons]; omega)
        rw [left, Run.masked, Run.masked, List.reverse_cons, List.map_append, List.append_assoc,
          List.map_singleton, ← whole]
        rfl
      · refine ih (Run.longer_isIn inBest ?_) ?_ rfl
        · rw [Run.IsIn, left]
          exact List.prefix_append _ _
        · have count : current.masked.length = current.reversed.length := by
            rw [Run.masked, List.length_map, List.length_reverse]
          have passed : pattern.drop index = expected :: rest := by
            rw [← reached, ← List.drop_drop, left, ← count, List.drop_left]
          rw [← List.drop_drop, passed]
          rfl

theorem hexStandsAt_drop {data : ByteArray} {pattern : List MaskedByte} {offset : Nat}
    (count : Nat) (stands : hexStandsAt data pattern offset = true) :
    hexStandsAt data (pattern.drop count) (offset + count) = true := by
  induction count generalizing pattern offset with
  | zero => exact stands
  | succ count ih =>
      cases pattern with
      | nil => rfl
      | cons expected pattern =>
          rw [hexStandsAt] at stands
          split at stands
          · rw [Bool.and_eq_true] at stands
            rw [List.drop_succ_cons, Nat.add_comm count 1, ← Nat.add_assoc]
            exact ih stands.2
          · exact absurd stands Bool.false_ne_true

theorem prefix_of_hexStandsAt {data : ByteArray} {pattern : List MaskedByte} {bytes : List UInt8}
    {offset : Nat} (stands : hexStandsAt data pattern offset = true)
    (begins : (bytes.map fun value => (⟨value, 0xff⟩ : MaskedByte)) <+: pattern) :
    bytes <+: data.data.toList.drop offset := by
  induction bytes generalizing pattern offset with
  | nil => exact List.nil_prefix
  | cons value bytes ih =>
      obtain ⟨rest, rfl⟩ := begins
      rw [List.map_cons, List.cons_append, hexStandsAt] at stands
      split at stands
      · rename_i within
        rw [Bool.and_eq_true, MaskedByte.admits, beq_iff_eq] at stands
        have byte : data[offset] = value :=
          calc
            data[offset] = data[offset] &&& 0xff := UInt8.and_neg_one.symm
            _ = value := stands.1
        rw [drop_eq_getElem_cons within, byte]
        exact List.cons_prefix_cons.mpr ⟨rfl, ih stands.2 (List.prefix_append _ _)⟩
      · exact absurd stands Bool.false_ne_true

/-! ## Atoms that are looked for -/

namespace Atom

theorem at?_eq_some {bytes : List UInt8} {start : Nat} {atom : Atom}
    (made : at? bytes start = some atom) :
    atom.bytes = bytes ∧ atom.backtrack.toNat = start + bytes.length := by
  simp only [at?] at made
  split at made
  · rename_i near
    cases made
    exact ⟨rfl, UInt16.toNat_ofNat_of_lt' near⟩
  · cases made

theorem at?_isSome {bytes : List UInt8} {start : Nat} (near : start + bytes.length < UInt16.size) :
    ∃ atom, at? bytes start = some atom :=
  ⟨_, if_pos near⟩

theorem mem_dropRepeated (atom : Atom) (atoms : List Atom) :
    atom ∈ dropRepeated atoms ↔ atom ∈ atoms := by
  fun_induction dropRepeated atoms with
  | case1 second atoms ih =>
      rw [ih]
      simp only [List.mem_cons, or_self_left]
  | case2 first second atoms different ih =>
      rw [List.mem_cons, ih, List.mem_cons (a := atom) (b := first)]
  | case3 => rfl

theorem mem_sorted (atom : Atom) (atoms : List Atom) : atom ∈ sorted atoms ↔ atom ∈ atoms := by
  rw [sorted, mem_dropRepeated, List.mem_mergeSort]

theorem standsAt_of_prefix {data : ByteArray} {bytes : List UInt8} {start offset : Nat}
    {atom : Atom} (made : at? bytes start = some atom) (within : offset ≤ data.size)
    (filled : bytes = [] → start = 0) (begins : bytes <+: data.data.toList.drop (offset + start)) :
    atom.StandsAt data offset := by
  obtain ⟨same, distance⟩ := at?_eq_some made
  rw [StandsAt, same, distance]
  by_cases empty : bytes = []
  · rw [empty, filled empty]
    exact ⟨within, List.nil_suffix⟩
  · rw [← Nat.add_assoc]
    exact suffix_take_of_prefix_drop empty begins

theorem everywhere_standsAt {data : ByteArray} {offset : Nat} (within : offset ≤ data.size) :
    everywhere.StandsAt data offset :=
  ⟨within, List.nil_suffix⟩

end Atom

/-- A string is hinted at where one of the atoms chosen for it stands, and everywhere if there are
none. -/
theorem StringDef.hinted_of_candidates {string : StringDef} {data : ByteArray} {offset : Nat}
    (within : offset ≤ data.size)
    (chosen : candidates string = [] ∨ ∃ atom ∈ candidates string, atom.StandsAt data offset) :
    string.Hinted data offset := by
  rw [Hinted, ofString]
  split
  · exact ⟨everywhere, List.mem_singleton_self _, everywhere_standsAt within⟩
  · rename_i usable
    rcases chosen with none | ⟨atom, listed, stands⟩
    · refine absurd ?_ usable
      simp only [none, sorted, List.mergeSort_nil, dropRepeated, List.isEmpty_nil, Bool.true_or]
    · exact ⟨atom, (mem_sorted atom _).mpr listed, stands⟩

theorem Atom.standsAt_of_form {nocase : Bool} {bytes form : List UInt8} {data : ByteArray}
    {offset : Nat} (short : bytes.length ≤ lengthLimit) (within : offset ≤ data.size)
    (listed : form ∈ formsOf nocase bytes) (begins : form <+: data.data.toList.drop offset) :
    ∃ atom ∈ ofForms nocase bytes, atom.StandsAt data offset := by
  have count := length_of_mem_formsOf listed
  obtain ⟨atom, made⟩ : ∃ atom, at? form 0 = some atom := at?_isSome (by
    simp only [lengthLimit, UInt16.size] at short ⊢
    omega)
  rw [ofForms_eq]
  exact ⟨atom, List.mem_filterMap.mpr ⟨form, listed, made⟩,
    standsAt_of_prefix made within (fun _ => rfl) begins⟩

theorem Atom.ofStart_standsAt {nocase : Bool} {text : List UInt8} {data : ByteArray} {offset : Nat}
    (within : offset ≤ data.size)
    (stands : textStandsAt nocase false data (text.take lengthLimit) offset = true) :
    ∃ atom ∈ ofStart nocase text, atom.StandsAt data offset := by
  obtain ⟨form, listed, begins⟩ := textStandsAt_iff_form.mp stands
  exact standsAt_of_form (List.length_take_le _ _) within listed begins

theorem Atom.length_widen (bytes : List UInt8) : (widen bytes).length = 2 * bytes.length := by
  induction bytes with
  | nil => rfl
  | cons byte bytes ih =>
      rw [widen_cons, List.length_cons, List.length_cons, ih, List.length_cons]
      omega

theorem Atom.widen_standsAt {nocase : Bool} {text : List UInt8} {data : ByteArray} {offset : Nat}
    (within : offset ≤ data.size) (stands : textStandsAt nocase true data text offset = true) :
    ∃ atom ∈ ofForms nocase (widen (text.take (lengthLimit / 2))), atom.StandsAt data offset := by
  obtain ⟨form, listed, begins⟩ :=
    wide_form_of_textStandsAt (textStandsAt_take (lengthLimit / 2) stands)
  refine standsAt_of_form ?_ within listed begins
  have count := List.length_take_le (lengthLimit / 2) text
  rw [length_widen]
  simp only [lengthLimit] at count ⊢
  omega

theorem Atom.ofHex?_standsAt {pattern : List MaskedByte} {data : ByteArray} {offset : Nat}
    {atom : Atom} (chosen : ofHex? pattern = some atom) (within : offset ≤ data.size)
    (stands : hexStandsAt data pattern offset = true) : atom.StandsAt data offset := by
  simp only [ofHex?] at chosen
  have isIn : (longestRun ⟨0, []⟩ ⟨0, []⟩ 0 pattern).IsIn pattern :=
    longestRun_isIn pattern List.nil_prefix rfl rfl
  generalize longestRun ⟨0, []⟩ ⟨0, []⟩ 0 pattern = run at chosen isIn
  split at chosen
  · cases chosen
  · rename_i filled
    refine standsAt_of_prefix chosen within (fun empty => absurd empty filled) ?_
    have whole := prefix_of_hexStandsAt (hexStandsAt_drop run.start stands) isIn
    exact (List.take_prefix _ _).trans whole

/-! ## Occurrences -/

theorem textStandsAt_of_textLength? {modifiers : Modifiers} {text : List UInt8} {wide : Bool}
    {data : ByteArray} {offset length : Nat}
    (occurs : textLength? modifiers text wide data offset = some length) :
    textStandsAt modifiers.nocase wide data text offset = true := by
  simp only [textLength?] at occurs
  split at occurs
  · rename_i stands
    exact (Bool.and_eq_true_iff.mp stands).1
  · cases occurs

theorem StringDef.lt_size_of_matchLength? {string : StringDef} {data : ByteArray}
    {offset length : Nat} (occurs : string.matchLength? data offset = some length) :
    offset < data.size := by
  rw [matchLength?] at occurs
  split at occurs
  · cases occurs
  · omega

/-- Wherever a text or hex pattern occurs, one of its atoms tells. -/
theorem StringDef.hinted_of_matchLength? {string : StringDef} {data : ByteArray}
    {offset length : Nat} (plain : ∀ regex, string.pattern ≠ .regex regex)
    (occurs : string.matchLength? data offset = some length) : string.Hinted data offset := by
  have within := Nat.le_of_lt (lt_size_of_matchLength? occurs)
  refine hinted_of_candidates within ?_
  rw [matchLength?, if_neg (Nat.not_le.mpr (lt_size_of_matchLength? occurs))] at occurs
  obtain ⟨identifier, rule, modifiers, pattern⟩ := string
  cases pattern with
  | regex regex => exact absurd rfl (plain regex)
  | text text =>
      simp only [candidates]
      right
      simp only at occurs
      split at occurs
      · rename_i narrowLength narrow
        split at narrow
        · rename_i isNarrow
          obtain ⟨atom, listed, stands⟩ := ofStart_standsAt within
            (textStandsAt_take lengthLimit (textStandsAt_of_textLength? narrow))
          rw [if_pos isNarrow]
          exact ⟨atom, List.mem_append_left _ listed, stands⟩
        · cases narrow
      · split at occurs
        · rename_i isWide
          obtain ⟨atom, listed, stands⟩ :=
            widen_standsAt within (textStandsAt_of_textLength? occurs)
          rw [if_pos isWide]
          exact ⟨atom, List.mem_append_right _ listed, stands⟩
        · cases occurs
  | hex bytes =>
      simp only [candidates]
      simp only at occurs
      split at occurs
      · rename_i stands
        cases chosen : ofHex? bytes with
        | none => exact Or.inl rfl
        | some atom =>
            exact Or.inr ⟨atom, List.mem_singleton_self _, ofHex?_standsAt chosen within stands⟩
      · cases occurs

/-! ## Where a regular expression is looked for -/

theorem prefix_drop_of_suffix_take {items part : List α} {start : Nat}
    (within : start + part.length ≤ items.length)
    (ends : part <:+ items.take (start + part.length)) : part <+: items.drop start := by
  obtain ⟨front, whole⟩ := ends
  have count := congrArg List.length whole
  rw [List.length_append, List.length_take, Nat.min_eq_left within] at count
  have length : front.length = start := by omega
  have same : part = (items.drop start).take part.length := by
    calc
      part = (items.take (start + part.length)).drop start := by
        rw [← whole, ← length, List.drop_left]
      _ = (items.drop start).take part.length := by
        rw [List.drop_take, Nat.add_sub_cancel_left]
  rw [same]
  exact List.take_prefix _ _

namespace Atom

theorem self_mem_formsOf (nocase : Bool) (bytes : List UInt8) : bytes ∈ formsOf nocase bytes := by
  induction bytes with
  | nil =>
      rw [formsOf_nil]
      exact List.mem_singleton_self _
  | cons byte bytes ih =>
      refine cons_mem_formsOf.mpr ⟨?_, ih⟩
      cases nocase with
      | false => exact beq_self_eq_true byte
      | true => exact beq_self_eq_true (Byte.toLower byte)

/-- An atom of a form stands only where the form does. -/
theorem form_of_standsAt {nocase : Bool} {bytes : List UInt8} {atom : Atom} {data : ByteArray}
    {offset : Nat} (listed : atom ∈ ofForms nocase bytes) (stands : atom.StandsAt data offset) :
    ∃ form ∈ formsOf nocase bytes, form <+: data.data.toList.drop offset := by
  rw [ofForms_eq] at listed
  obtain ⟨form, isForm, made⟩ := List.mem_filterMap.mp listed
  obtain ⟨same, distance⟩ := at?_eq_some made
  rw [StandsAt, same, distance, Nat.zero_add] at stands
  exact ⟨form, isForm, prefix_drop_of_suffix_take stands.1 stands.2⟩

theorem sorted_ofForms_usable {nocase : Bool} {bytes : List UInt8} (some : bytes ≠ [])
    (short : bytes.length ≤ lengthLimit) :
    ((sorted (ofForms nocase bytes)).isEmpty ||
      (sorted (ofForms nocase bytes)).any fun atom => atom.bytes.isEmpty) = false := by
  rw [ofForms_eq, Bool.or_eq_false_iff, List.isEmpty_eq_false_iff_exists_mem, List.any_eq_false]
  constructor
  · obtain ⟨atom, made⟩ : ∃ atom, at? bytes 0 = Option.some atom := at?_isSome (by
      simp only [lengthLimit, UInt16.size] at short ⊢
      omega)
    exact ⟨atom, (mem_sorted atom _).mpr
      (List.mem_filterMap.mpr ⟨bytes, self_mem_formsOf nocase bytes, made⟩)⟩
  · intro atom listed empty
    obtain ⟨form, isForm, made⟩ := List.mem_filterMap.mp ((mem_sorted atom _).mp listed)
    rw [(at?_eq_some made).1, List.isEmpty_iff] at empty
    have count := length_of_mem_formsOf isForm
    rw [empty] at count
    exact some (List.length_eq_zero_iff.mp count.symm)

end Atom

theorem candidates_of_regex {string : StringDef} {regex : Regex string.modifiers.nocase}
    (isRegex : string.pattern = .regex regex) :
    candidates string =
      ofForms string.modifiers.nocase ((regexPrefix regex.source).take lengthLimit) := by
  rw [candidates, isRegex]
  rfl

/-- A regular expression is looked for where the bytes stand that are taken for its first ones. -/
theorem StringDef.hinted_iff_of_regex {string : StringDef} {regex : Regex string.modifiers.nocase}
    (isRegex : string.pattern = .regex regex) {data : ByteArray} {offset : Nat}
    (within : offset ≤ data.size) :
    string.Hinted data offset ↔ textStandsAt string.modifiers.nocase false data
      ((regexPrefix regex.source).take lengthLimit) offset = true := by
  constructor
  · rintro ⟨atom, chosen, stands⟩
    by_cases nothing : (regexPrefix regex.source).take lengthLimit = []
    · rw [nothing]
      rfl
    · rw [ofString, candidates_of_regex isRegex, if_neg (by
        rw [sorted_ofForms_usable nothing (List.length_take_le _ _)]
        exact Bool.false_ne_true)] at chosen
      exact textStandsAt_iff_form.mpr (form_of_standsAt ((mem_sorted atom _).mp chosen) stands)
  · intro stands
    refine hinted_of_candidates within (Or.inr ?_)
    rw [candidates_of_regex isRegex]
    exact ofStart_standsAt within stands

end ByteScan
