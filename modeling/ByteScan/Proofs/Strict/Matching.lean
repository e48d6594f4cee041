import ByteScan.Pattern.Occurrence
import ByteScan.Proofs.Regex.Paths

/-!
# Looking for strings without reaching beyond

The strict form of looking for a string at an offset has no result where a byte outside of the data or
of the window that the string would take is asked for. It does what `StringDef.matchLength?` does,
and what is found lies inside the data.
-/

namespace ByteScan

namespace Strict

def windowByte (data : ByteArray) (stop index : Nat) : Option UInt8 :=
  if index < stop then data[index]? else none

def standsIn (nocase wide : Bool) (data : ByteArray) (stop : Nat) :
    List UInt8 → Nat → Option Bool
  | [], _ => some true
  | expected :: text, offset => do
    let actual ← windowByte data stop offset
    if sameByte nocase actual expected then
      if wide then do
        let zero ← windowByte data stop (offset + 1)
        if zero == 0 then standsIn nocase wide data stop text (offset + byteWidth wide)
        else some false
      else standsIn nocase wide data stop text (offset + byteWidth wide)
    else some false

def isWordBefore (wide : Bool) (data : ByteArray) (offset : Nat) : Option Bool :=
  if byteWidth wide ≤ offset then (data[offset - byteWidth wide]?).map Byte.isAlphanumeric
  else some false

def textLength (modifiers : Modifiers) (text : List UInt8) (wide : Bool) (data : ByteArray)
    (offset : Nat) : Option (Option Nat) := do
  let stop := offset + text.length * byteWidth wide
  if data.size < stop then some none
  else do
    let stands ← standsIn modifiers.nocase wide data stop text offset
    if stands then
      if modifiers.fullword then do
        let before ← isWordBefore wide data offset
        some (if before || isWordAt data stop then none else some (text.length * byteWidth wide))
      else some (some (text.length * byteWidth wide))
    else some none

/-- The number of bytes that a string takes at an offset, where it occurs. An expression is looked
for in the slice of the data from the offset on. -/
def matchLength (string : StringDef) (data : ByteArray) (offset : Nat) : Option (Option Nat) :=
  if data.size ≤ offset then some none
  else
    match string.pattern with
    | .text text => do
      let narrow ← if string.modifiers.narrow then
          textLength string.modifiers text false data offset
        else some none
      match narrow with
      | some length => some (some length)
      | none =>
        if string.modifiers.wide then textLength string.modifiers text true data offset
        else some none
    | .hex bytes => some (if hexStandsAt data bytes offset then some bytes.length else none)
    | .regex regex =>
      if data.size < offset then none
      else
        match regex.matchLength? data offset with
        | some length => some (if length = 0 then none else some length)
        | none => some none

end Strict

theorem lt_size_of_getElem? {data : ByteArray} {index : Nat} {byte : UInt8}
    (found : data[index]? = some byte) : index < data.size := by
  by_cases within : index < data.size
  · exact within
  · rw [getElem?_neg data index within] at found
    cases found

/-! ## Texts -/

variable {nocase wide : Bool} {data : ByteArray} {offset : Nat}

theorem windowByte_eq {stop index : Nat} (within : stop ≤ data.size) (early : index < stop) :
    Strict.windowByte data stop index = some data[index] := by
  rw [Strict.windowByte, if_pos early]
  exact getElem?_pos data index (Nat.lt_of_lt_of_le early within)

theorem standsIn_eq {text : List UInt8} {stop : Nat} (within : stop ≤ data.size)
    (window : offset + text.length * byteWidth wide = stop) :
    Strict.standsIn nocase wide data stop text offset =
      some (textStandsAt nocase wide data text offset) := by
  induction text generalizing offset with
  | nil => rfl
  | cons expected text ih =>
      rw [List.length_cons, Nat.succ_mul] at window
      have width : 0 < byteWidth wide := by cases wide <;> decide
      have isFirst : offset < stop := by omega
      have rest : Strict.standsIn nocase wide data stop text (offset + byteWidth wide) =
          some (textStandsAt nocase wide data text (offset + byteWidth wide)) := ih (by omega)
      rw [Strict.standsIn, textStandsAt, windowByte_eq within isFirst,
        dif_pos (Nat.lt_of_lt_of_le isFirst within)]
      simp only [Option.bind_eq_bind, Option.bind_some]
      by_cases same : sameByte nocase data[offset] expected = true
      · rw [if_pos same, same]
        cases wide with
        | false => exact rest
        | true =>
            have isSecond : offset + 1 < stop := by
              unfold byteWidth at window
              simp only [if_true] at window
              omega
            have second : data[offset + 1]? = some data[offset + 1] :=
              getElem?_pos data _ (Nat.lt_of_lt_of_le isSecond within)
            rw [if_pos rfl, windowByte_eq within isSecond, second, Option.bind_some]
            by_cases zero : (data[offset + 1] == 0) = true
            · rw [if_pos zero, rest]
              simp only [Option.some_beq_some, zero, Bool.not_true, Bool.false_or, Bool.true_and]
            · rw [if_neg zero]
              rw [Bool.not_eq_true] at zero
              simp only [Option.some_beq_some, zero, Bool.not_true, Bool.false_or, Bool.true_and,
                Bool.false_and]
      · rw [if_neg same]
        rw [Bool.not_eq_true] at same
        simp only [same, Bool.false_and]

theorem le_size_of_textStandsAt {text : List UInt8} (inside : offset ≤ data.size)
    (stands : textStandsAt nocase wide data text offset = true) :
    offset + text.length * byteWidth wide ≤ data.size := by
  induction text generalizing offset with
  | nil =>
      rw [List.length_nil, Nat.zero_mul]
      exact inside
  | cons expected text ih =>
      rw [textStandsAt] at stands
      split at stands
      · rename_i within
        simp only [Bool.and_eq_true] at stands
        obtain ⟨⟨_, second⟩, rest⟩ := stands
        have next : offset + byteWidth wide ≤ data.size := by
          cases wide with
          | false => exact within
          | true =>
              simp only [Bool.not_true, Bool.false_or, beq_iff_eq] at second
              exact lt_size_of_getElem? second
        have enough := ih next rest
        rw [List.length_cons, Nat.succ_mul]
        omega
      · cases stands

theorem isWordBefore_eq (inside : offset < data.size) :
    Strict.isWordBefore wide data offset =
      some (decide (byteWidth wide ≤ offset) && isWordAt data (offset - byteWidth wide)) := by
  have bound : offset - byteWidth wide < data.size := by omega
  rw [Strict.isWordBefore, isWordAt, dif_pos bound]
  split
  · rename_i enough
    rw [getElem?_pos data _ bound, Option.map_some, decide_eq_true enough, Bool.true_and]
  · rename_i short
    rw [decide_eq_false short, Bool.false_and]

theorem textLength_eq (modifiers : Modifiers) (text : List UInt8) (inside : offset < data.size) :
    Strict.textLength modifiers text wide data offset =
      some (textLength? modifiers text wide data offset) := by
  unfold Strict.textLength textLength?
  dsimp only
  by_cases short : data.size < offset + text.length * byteWidth wide
  · have absent : textStandsAt modifiers.nocase wide data text offset = false := by
      rw [← Bool.not_eq_true]
      intro stands
      have enough := le_size_of_textStandsAt (Nat.le_of_lt inside) stands
      omega
    rw [if_pos short, absent]
    rfl
  · rw [if_neg short, standsIn_eq (Nat.le_of_not_lt short) rfl]
    simp only [Option.bind_eq_bind, Option.bind_some]
    cases textStandsAt modifiers.nocase wide data text offset with
    | false => rfl
    | true =>
        cases modifiers.fullword with
        | false => rfl
        | true =>
            rw [isWordBefore_eq inside, Option.bind_some, standsAlone]
            cases decide (byteWidth wide ≤ offset) && isWordAt data (offset - byteWidth wide) <;>
              cases isWordAt data (offset + text.length * byteWidth wide) <;> rfl

theorem le_size_of_textLength? {modifiers : Modifiers} {text : List UInt8} {length : Nat}
    (inside : offset ≤ data.size)
    (occurs : textLength? modifiers text wide data offset = some length) :
    offset + length ≤ data.size := by
  unfold textLength? at occurs
  dsimp only at occurs
  split at occurs
  · rename_i stands
    cases occurs
    exact le_size_of_textStandsAt inside (Bool.and_eq_true_iff.mp stands).1
  · cases occurs

/-! ## Hex patterns and expressions -/

theorem le_size_of_hexStandsAt {bytes : List MaskedByte} (inside : offset ≤ data.size)
    (stands : hexStandsAt data bytes offset = true) : offset + bytes.length ≤ data.size := by
  induction bytes generalizing offset with
  | nil => exact inside
  | cons expected bytes ih =>
      rw [hexStandsAt] at stands
      split at stands
      · rename_i within
        have enough := ih within (Bool.and_eq_true_iff.mp stands).2
        rw [List.length_cons]
        omega
      · cases stands

theorem Regex.Accepts.stop_le {instructions : Array Regex.Instruction} {view : Regex.View}
    {stop place position : Nat} (accepts : Regex.Accepts instructions view stop place position)
    (inside : position ≤ view.data.size) : position ≤ stop ∧ stop ≤ view.data.size := by
  induction accepts with
  | accept _ => exact ⟨Nat.le_refl _, inside⟩
  | byte _ stands _ _ ih =>
      obtain ⟨early, enough⟩ := ih (lt_size_of_getElem? stands)
      exact ⟨Nat.le_of_succ_le early, enough⟩
  | first _ _ ih => exact ih inside
  | second _ _ ih => exact ih inside
  | look _ _ _ ih => exact ih inside

theorem Regex.le_size_of_matchLength? {caseless : Bool} {regex : Regex caseless} {length : Nat}
    (inside : offset ≤ data.size) (found : regex.matchLength? data offset = some length) :
    offset + length ≤ data.size := by
  obtain ⟨stop, isStop, rfl⟩ := Option.map_eq_some_iff.mp found
  obtain ⟨early, enough⟩ := (Regex.accepts_of_matchEnd? isStop).stop_le inside
  dsimp only at enough
  omega

/-! ## Strings -/

namespace StringDef

variable (string : StringDef)

/-- A string is looked for without reaching beyond the data. -/
theorem matchLength_strict (data : ByteArray) (offset : Nat) :
    Strict.matchLength string data offset = some (string.matchLength? data offset) := by
  unfold Strict.matchLength matchLength?
  by_cases beyond : data.size ≤ offset
  · rw [if_pos beyond, if_pos beyond]
  · rw [if_neg beyond, if_neg beyond]
    have inside := Nat.lt_of_not_le beyond
    cases string.pattern with
    | text text =>
        dsimp only
        rw [textLength_eq _ _ inside, textLength_eq _ _ inside]
        have wide : (if string.modifiers.wide then
              some (textLength? string.modifiers text true data offset) else some none) =
            some (if string.modifiers.wide then
              textLength? string.modifiers text true data offset else none) := by
          split <;> rfl
        rw [wide]
        cases string.modifiers.narrow with
        | false => rfl
        | true => cases textLength? string.modifiers text false data offset <;> rfl
    | hex bytes => rfl
    | regex regex =>
        dsimp only
        rw [if_neg (Nat.not_lt.mpr (Nat.le_of_lt inside))]
        cases regex.matchLength? data offset <;> rfl

theorem le_size_of_matchLength? {length : Nat}
    (occurs : string.matchLength? data offset = some length) : offset + length ≤ data.size := by
  unfold matchLength? at occurs
  split at occurs
  · cases occurs
  · rename_i within
    have inside : offset ≤ data.size := by omega
    split at occurs
    · dsimp only at occurs
      split at occurs
      · rename_i narrow
        cases occurs
        split at narrow
        · exact le_size_of_textLength? inside narrow
        · cases narrow
      · split at occurs
        · exact le_size_of_textLength? inside occurs
        · cases occurs
    · split at occurs
      · rename_i stands
        cases occurs
        exact le_size_of_hexStandsAt inside stands
      · cases occurs
    · split at occurs
      · rename_i found
        split at occurs
        · cases occurs
        · cases occurs
          exact Regex.le_size_of_matchLength? inside found
      · cases occurs

end StringDef

end ByteScan
