import ByteScan.Proofs.Byte
import ByteScan.Text.Blank
import ByteScan.Text.Integer
import Mathlib.Data.List.Basic
import Mathlib.Data.List.Induction
import Mathlib.Data.Nat.Digits.Defs

/-!
# Numbers in text

Which texts are read as which numbers: `readUnsigned_eq_ok_iff`. The digits that are written for a number
are read as that number: `isNumeral_digits`.
-/

namespace ByteScan.Text

/-- Some digits, the most significant first, stand for a number. -/
def IsNumeral (radix : Nat) (text : List Char) (number : Nat) : Prop :=
  ∃ digits : List Nat, text.map (digitValue? radix) = digits.map some ∧
    Nat.ofDigits radix digits.reverse = number

/-- At least one digit, perhaps after a plus sign, stands for a number. -/
def IsUnsigned (radix : Nat) (text : List Char) (number : Nat) : Prop :=
  ∃ digits, digits ≠ [] ∧ (text = digits ∨ text = '+' :: digits) ∧ IsNumeral radix digits number

variable {radix limit : Nat} {text : List Char} {number : Nat}

theorem isNumeral_nil : IsNumeral radix [] number ↔ number = 0 := by
  constructor
  · rintro ⟨digits, none, rfl⟩
    rw [List.map_nil, List.nil_eq, List.map_eq_nil_iff] at none
    rw [none]
    rfl
  · rintro rfl
    exact ⟨[], rfl, rfl⟩

theorem isNumeral_concat {last : Char} : IsNumeral radix (text ++ [last]) number ↔
    ∃ front digit, IsNumeral radix text front ∧ digitValue? radix last = some digit ∧
      front * radix + digit = number := by
  constructor
  · rintro ⟨digits, same, rfl⟩
    rw [List.map_append, eq_comm, List.map_eq_append_iff] at same
    obtain ⟨front, rest, rfl, frontSame, restSame⟩ := same
    obtain ⟨digit, rfl, isDigit⟩ := List.map_eq_singleton_iff.mp restSame
    refine ⟨_, digit, ⟨front, frontSame.symm, rfl⟩, isDigit.symm, ?_⟩
    rw [List.reverse_append, List.reverse_singleton, List.singleton_append, Nat.ofDigits_cons]
    simp [Nat.mul_comm, Nat.add_comm]
  · rintro ⟨_, digit, ⟨front, same, rfl⟩, isDigit, rfl⟩
    refine ⟨front ++ [digit], ?_, ?_⟩
    · rw [List.map_append, List.map_append, same, List.map_singleton, List.map_singleton, isDigit]
    · rw [List.reverse_append, List.reverse_singleton, List.singleton_append, Nat.ofDigits_cons]
      simp [Nat.mul_comm, Nat.add_comm]

theorem IsNumeral.isDigit (isNumeral : IsNumeral radix text number) {c : Char} (listed : c ∈ text) :
    ∃ digit, digitValue? radix c = some digit := by
  obtain ⟨digits, same, -⟩ := isNumeral
  have member := List.mem_map_of_mem (f := digitValue? radix) listed
  rw [same] at member
  obtain ⟨digit, -, isDigit⟩ := List.mem_map.mp member
  exact ⟨digit, isDigit.symm⟩

theorem IsNumeral.unique {other : Nat} (isNumeral : IsNumeral radix text number)
    (also : IsNumeral radix text other) : number = other := by
  obtain ⟨digits, same, rfl⟩ := isNumeral
  obtain ⟨others, same', rfl⟩ := also
  rw [List.map_injective_iff.mpr (Option.some_injective Nat) (same.symm.trans same')]

theorem IsNumeral.le_append (positive : 0 < radix) {first : Nat}
    (isFirst : IsNumeral radix text first) (more : List Char)
    (isNumeral : IsNumeral radix (text ++ more) number) : first ≤ number := by
  induction more using List.reverseRecOn generalizing number with
  | nil =>
      rw [List.append_nil] at isNumeral
      exact (isFirst.unique isNumeral).le
  | append_singleton more last ih =>
      rw [← List.append_assoc, isNumeral_concat] at isNumeral
      obtain ⟨front, digit, isFront, -, rfl⟩ := isNumeral
      calc
        first ≤ front := ih isFront
        _ ≤ front * radix := Nat.le_mul_of_pos_right front positive
        _ ≤ front * radix + digit := Nat.le_add_right ..

/-- After some digits, the rest is read if all of it are digits and the whole number is not too large. -/
theorem readDigits_eq_ok_iff (positive : 0 < radix) {tooFar : IntegerFault} {total : Nat}
    {before : List Char} (isTotal : IsNumeral radix before total) (inside : total ≤ limit) :
    readDigits radix limit tooFar total text = .ok number ↔
      IsNumeral radix (before ++ text) number ∧ number ≤ limit := by
  induction text generalizing before total with
  | nil =>
      rw [readDigits, List.append_nil]
      constructor
      · rintro ⟨⟩
        exact ⟨isTotal, inside⟩
      · rintro ⟨isNumeral, -⟩
        rw [isTotal.unique isNumeral]
  | cons c text ih =>
      rw [readDigits, List.append_cons]
      cases isDigit : digitValue? radix c with
      | none =>
          refine ⟨nofun, ?_⟩
          rintro ⟨isNumeral, -⟩
          obtain ⟨digit, same⟩ := isNumeral.isDigit (List.append_cons .. ▸ List.mem_append_cons_self)
          cases isDigit.symm.trans same
      | some digit =>
          have isNext : IsNumeral radix (before ++ [c]) (total * radix + digit) :=
            isNumeral_concat.mpr ⟨total, digit, isTotal, isDigit, rfl⟩
          dsimp only
          split
          · rename_i fits
            rw [ih isNext fits]
          · rename_i large
            refine ⟨nofun, ?_⟩
            rintro ⟨isNumeral, few⟩
            exact absurd ((isNext.le_append positive text isNumeral).trans few) large

/-! ## Signs -/

theorem digitValue?_minus (radix : Nat) : digitValue? radix '-' = none := rfl

theorem isUnsigned_plus :
    IsUnsigned radix ('+' :: text) number ↔ text ≠ [] ∧ IsNumeral radix text number := by
  constructor
  · rintro ⟨digits, some, rfl | same, isNumeral⟩
    · obtain ⟨digit, isDigit⟩ := isNumeral.isDigit (List.mem_cons_self ..)
      cases isDigit
    · cases same
      exact ⟨some, isNumeral⟩
  · rintro ⟨some, isNumeral⟩
    exact ⟨text, some, .inr rfl, isNumeral⟩

theorem isUnsigned_of_not_plus (unsigned : text.head? ≠ some '+') :
    IsUnsigned radix text number ↔ text ≠ [] ∧ IsNumeral radix text number := by
  constructor
  · rintro ⟨digits, some, rfl | rfl, isNumeral⟩
    · exact ⟨some, isNumeral⟩
    · exact absurd rfl unsigned
  · rintro ⟨some, isNumeral⟩
    exact ⟨text, some, .inl rfl, isNumeral⟩

theorem IsUnsigned.notMem (isUnsigned : IsUnsigned radix text number) {c : Char} (isOther : c ≠ '+')
    (noDigit : digitValue? radix c = none) : c ∉ text := by
  intro listed
  obtain ⟨digits, -, same, isNumeral⟩ := isUnsigned
  have among : c ∈ digits := by
    rcases same with rfl | rfl
    · exact listed
    · exact (List.mem_cons.mp listed).resolve_left isOther
  obtain ⟨digit, isDigit⟩ := isNumeral.isDigit among
  cases noDigit.symm.trans isDigit

theorem notBlank_of_ofHexDigit? {c : Char} {digit : Nat} (isDigit : Byte.ofHexDigit? c = some digit) :
    isBlank c = false := by
  have bounds := Byte.toNat_of_ofHexDigit? isDigit
  by_contra blank
  rw [Bool.not_eq_false] at blank
  simp only [isBlank, Bool.or_eq_true, Bool.and_eq_true, decide_eq_true_eq, beq_iff_eq] at blank
  omega

theorem IsUnsigned.notBlank (isUnsigned : IsUnsigned radix text number) :
    ∀ c ∈ text, isBlank c = false := by
  intro c listed
  by_contra blank
  refine isUnsigned.notMem ?_ ?_ listed
  · rintro rfl
    exact blank rfl
  · rw [digitValue?]
    split
    · rename_i isDigit
      exact absurd (notBlank_of_ofHexDigit? isDigit) blank
    · rfl

theorem IsUnsigned.ne_nil (isUnsigned : IsUnsigned radix text number) : text ≠ [] := by
  obtain ⟨digits, some, rfl | rfl, -⟩ := isUnsigned
  · exact some
  · exact List.cons_ne_nil _ _

/-- A text is read as a number if it stands for the number and this is not too large. -/
theorem readUnsigned_eq_ok_iff (positive : 0 < radix) {source : String} :
    readUnsigned radix limit source = .ok number ↔
      IsUnsigned radix source.toList number ∧ number ≤ limit := by
  have digits {text : List Char} (some : text ≠ []) :
      readDigits radix limit .tooLarge 0 text = .ok number ↔
        (text ≠ [] ∧ IsNumeral radix text number) ∧ number ≤ limit := by
    rw [readDigits_eq_ok_iff positive (isNumeral_nil.mpr rfl) (Nat.zero_le _), List.nil_append,
      and_iff_right some]
  rw [readUnsigned]
  generalize source.toList = text
  split
  · refine ⟨nofun, ?_⟩
    rintro ⟨isUnsigned, -⟩
    exact absurd rfl ((isUnsigned_of_not_plus (by decide)).mp isUnsigned).1
  · refine ⟨nofun, ?_⟩
    rintro ⟨isUnsigned, -⟩
    exact absurd rfl (isUnsigned_plus.mp isUnsigned).1
  · refine ⟨nofun, ?_⟩
    rintro ⟨isUnsigned, -⟩
    obtain ⟨-, isNumeral⟩ := (isUnsigned_of_not_plus (by decide)).mp isUnsigned
    obtain ⟨digit, isDigit⟩ := isNumeral.isDigit (List.mem_cons_self ..)
    cases isDigit
  · rename_i text isMore
    rw [isUnsigned_plus, digits]
    rintro rfl
    exact isMore rfl
  · rename_i isSome _ _ isOther
    have unsigned : text.head? ≠ some '+' := by
      intro plus
      obtain ⟨rest, rfl⟩ := List.head?_eq_some_iff.mp plus
      exact isOther rest rfl
    rw [isUnsigned_of_not_plus unsigned, digits isSome]

/-! ## Writing digits -/

theorem digitValue?_hexDigit {digit : Nat} (fits : digit < radix) (known : radix ≤ 16) :
    digitValue? radix (Byte.hexDigit digit) = some digit := by
  rw [digitValue?, Byte.ofHexDigit?_hexDigit (fits.trans_le known)]
  exact if_pos fits

theorem isNumeral_digits (several : 2 ≤ radix) (known : radix ≤ 16) (number : Nat) :
    IsNumeral radix (digits radix number) number := by
  induction number using digits.induct radix with
  | case1 number bounds ih =>
      have small := Nat.mod_lt number (Nat.zero_lt_of_lt several)
      rw [digits, dif_pos bounds, isNumeral_concat]
      exact ⟨_, _, ih, digitValue?_hexDigit small known, Nat.div_add_mod' number radix⟩
  | case2 number small =>
      have fits : number < radix := by omega
      rw [digits, dif_neg small]
      exact isNumeral_concat.mpr ⟨0, number, isNumeral_nil.mpr rfl, digitValue?_hexDigit fits known,
        by omega⟩

theorem digits_ne_nil (radix number : Nat) : digits radix number ≠ [] := by
  rw [digits]
  split
  · exact List.append_ne_nil_of_right_ne_nil _ (List.cons_ne_nil _ _)
  · exact List.cons_ne_nil _ _

theorem IsNumeral.zeros (positive : 0 < radix) (isNumeral : IsNumeral radix text number)
    (count : Nat) : IsNumeral radix (List.replicate count '0' ++ text) number := by
  obtain ⟨digits, same, rfl⟩ := isNumeral
  have isZero : digitValue? radix '0' = some 0 := if_pos positive
  refine ⟨List.replicate count 0 ++ digits, ?_, ?_⟩
  · rw [List.map_append, List.map_append, List.map_replicate, List.map_replicate, isZero, same]
  · rw [List.reverse_append, List.reverse_replicate, Nat.ofDigits_append_replicate_zero]

theorem isUnsigned_digits (several : 2 ≤ radix) (known : radix ≤ 16) (number : Nat) :
    IsUnsigned radix (digits radix number) number :=
  ⟨_, digits_ne_nil radix number, .inl rfl, isNumeral_digits several known number⟩

theorem isNumeral_hexPadded (width number : Nat) :
    IsNumeral 16 (hexPadded width number).toList number := by
  rw [hexPadded, String.toList_ofList]
  exact (isNumeral_digits (by decide) (by decide) number).zeros (by decide) _

theorem isUnsigned_hexPadded (width number : Nat) :
    IsUnsigned 16 (hexPadded width number).toList number := by
  refine ⟨_, ?_, .inl rfl, isNumeral_hexPadded width number⟩
  rw [hexPadded, String.toList_ofList]
  exact List.append_ne_nil_of_right_ne_nil _ (digits_ne_nil 16 number)

end ByteScan.Text
