import ByteScan.Proofs.RuleFile.Extensions
import ByteScan.Proofs.RuleFile.RoundTrip
import ByteScan.Proofs.Strict.Running
import Mathlib.Tactic.IntervalCases

/-!
# Saving what was loaded

What a reader has taken is the record that is written for the value. Only the value of a truth
variable may stand in a file in another way. So a rule set that was loaded is saved as the file that
it was loaded from, but for such values: `write_read`.
-/

namespace ByteScan.RuleFile

variable {part : Part} {bytes rest : List UInt8}

/-! ## Numbers, bytes and texts -/

theorem takeBytes_eq_ok {count : Nat} {front : List UInt8}
    (taken : takeBytes part count bytes = .ok (front, rest)) :
    bytes = front ++ rest ∧ front.length = count := by
  rw [takeBytes] at taken
  split at taken
  · rename_i enough
    cases taken
    exact ⟨(List.take_append_drop count bytes).symm,
      List.length_take_of_le ((hasAtLeast_iff count bytes).mp enough)⟩
  · cases taken

theorem takeNumber_eq_ok {width number : Nat}
    (taken : takeNumber part width bytes = .ok (number, rest)) :
    bytes = LittleEndian.encode width number ++ rest ∧ number < Nat.pow 256 width := by
  obtain ⟨⟨digits, left⟩, front, same⟩ := bind_eq_ok taken
  obtain ⟨split, rfl⟩ := takeBytes_eq_ok front
  cases same
  exact ⟨by rw [LittleEndian.encode_value, split], LittleEndian.value_lt digits⟩

theorem takeWord_eq_ok {number : Nat} (taken : takeNumber part 4 bytes = .ok (number, rest)) :
    bytes = word number ++ rest ∧ number < UInt32.size := takeNumber_eq_ok taken

theorem takeOptional_eq_ok {index : Option Nat}
    (taken : takeOptional part bytes = .ok (index, rest)) : bytes = optional index ++ rest := by
  obtain ⟨⟨number, left⟩, front, same⟩ := bind_eq_ok taken
  obtain ⟨rfl, _⟩ := takeWord_eq_ok front
  cases same
  split
  · rename_i none
    rw [none]
    rfl
  · rename_i some
    rw [optional, Nat.sub_add_cancel (Nat.pos_of_ne_zero some)]

theorem takeCount_eq_ok {size count : Nat} (taken : takeCount part size bytes = .ok (count, rest)) :
    bytes = word count ++ rest ∧ count < UInt32.size ∧ count * size ≤ rest.length := by
  obtain ⟨⟨number, left⟩, front, checked⟩ := bind_eq_ok taken
  obtain ⟨_, enough, same⟩ := bind_eq_ok checked
  cases same
  rw [checkCount] at enough
  split at enough
  · rename_i fits
    exact ⟨(takeWord_eq_ok front).1, (takeWord_eq_ok front).2, (hasAtLeast_iff _ _).mp fits⟩
  · cases enough

theorem takeSized_eq_ok {value : List UInt8} (taken : takeSized part bytes = .ok (value, rest)) :
    bytes = sized value ++ rest ∧ value.length < UInt32.size := by
  obtain ⟨⟨count, left⟩, front, same⟩ := bind_eq_ok taken
  obtain ⟨rfl, small, fits⟩ := takeCount_eq_ok front
  cases same
  rw [Nat.mul_one] at fits
  have length : (left.take count).length = count := List.length_take_of_le fits
  refine ⟨?_, length.symm ▸ small⟩
  rw [sized, length, List.append_assoc, List.take_append_drop]

theorem takeText_eq_ok {text : String} (taken : takeText part bytes = .ok (text, rest)) :
    bytes = sizedText text ++ rest ∧ TextFits text := by
  obtain ⟨⟨encoded, left⟩, front, decoded⟩ := bind_eq_ok taken
  obtain ⟨rfl, small⟩ := takeSized_eq_ok front
  dsimp only at decoded
  split at decoded
  · rename_i found same
    cases decoded
    have spelled : text.toUTF8.toList = encoded := by
      rw [String.fromUTF8?] at same
      split at same
      · cases same
        have back := congrArg ByteArray.data (Text.toArray_toList ⟨encoded.toArray⟩)
        exact congrArg Array.toList back
      · cases same
    rw [sizedText, TextFits, spelled]
    exact ⟨rfl, small⟩
  · cases decoded

/-! ## Lists of items -/

section

variable {item : Reading α} {stored : α → List UInt8 → Prop}
  (each : ∀ {bytes rest value}, item bytes = .ok (value, rest) →
    ∃ record, bytes = record ++ rest ∧ stored value record)
include each

theorem takeMany_stored {count : Nat} {taken all : Array α}
    (many : takeMany item count taken bytes = .ok (all, rest)) :
    ∃ items records, all = taken ++ items.toArray ∧ items.length = count ∧
      bytes = records.flatten ++ rest ∧ List.Forall₂ stored items records := by
  induction count generalizing taken bytes with
  | zero =>
      cases many
      exact ⟨[], [], (Array.append_empty).symm, rfl, rfl, .nil⟩
  | succ count ih =>
      rw [takeMany] at many
      split at many
      · rename_i next left first
        obtain ⟨record, rfl, isStored⟩ := each first
        obtain ⟨items, records, rfl, rfl, rfl, others⟩ := ih many
        refine ⟨next :: items, record :: records, ?_, rfl, ?_, .cons isStored others⟩
        · apply Array.ext'
          simp
        · rw [List.flatten_cons, List.append_assoc]
      · cases many

theorem takeItems_stored {size count : Nat} {all : Array α}
    (taken : takeItems part size count item bytes = .ok (all, rest)) :
    ∃ records, all.size = count ∧ bytes = records.flatten ++ rest ∧
      List.Forall₂ stored all.toList records := by
  obtain ⟨_, _, many⟩ := bind_eq_ok taken
  obtain ⟨items, records, rfl, rfl, rfl, isStored⟩ := takeMany_stored each many
  rw [Array.empty_append]
  exact ⟨records, List.size_toArray, rfl, isStored⟩

end

section

variable {item : Reading α} {write : α → List UInt8} {good : α → Prop}
  (each : ∀ {bytes rest value}, item bytes = .ok (value, rest) →
    bytes = write value ++ rest ∧ good value)

theorem flatten_of_written {items : List α} {records : List (List UInt8)}
    (written : List.Forall₂ (fun value record => record = write value ∧ good value) items records) :
    records.flatten = items.flatMap write ∧ ∀ value ∈ items, good value := by
  induction written with
  | nil => exact ⟨rfl, nofun⟩
  | cons isFirst _ ih =>
      obtain ⟨rfl, isGood⟩ := isFirst
      obtain ⟨same, others⟩ := ih
      constructor
      · rw [List.flatten_cons, List.flatMap_cons, same]
      · exact List.forall_mem_cons.mpr ⟨isGood, others⟩

include each

theorem takeMany_eq_ok {count : Nat} {taken all : Array α}
    (many : takeMany item count taken bytes = .ok (all, rest)) :
    ∃ items : List α, all = taken ++ items.toArray ∧ items.length = count ∧
      bytes = items.flatMap write ++ rest ∧ ∀ value ∈ items, good value := by
  have written {bytes rest : List UInt8} {value : α} (first : item bytes = .ok (value, rest)) :
      ∃ record, bytes = record ++ rest ∧ (record = write value ∧ good value) :=
    ⟨_, (each first).1, rfl, (each first).2⟩
  obtain ⟨items, records, same, length, rfl, written⟩ := takeMany_stored written many
  obtain ⟨flat, isGood⟩ := flatten_of_written written
  exact ⟨items, same, length, congrArg (· ++ rest) flat, isGood⟩

theorem takeItems_eq_ok {size count : Nat} {all : Array α}
    (taken : takeItems part size count item bytes = .ok (all, rest)) :
    all.size = count ∧ bytes = all.toList.flatMap write ++ rest ∧ ∀ value ∈ all, good value := by
  obtain ⟨_, _, many⟩ := bind_eq_ok taken
  obtain ⟨items, rfl, rfl, rfl, isGood⟩ := takeMany_eq_ok each many
  rw [Array.empty_append]
  exact ⟨List.size_toArray, rfl, fun value member => isGood value (List.mem_toArray.mp member)⟩

theorem takeCounted_eq_ok {size : Nat} {all : Array α}
    (taken : takeCounted part size item bytes = .ok (all, rest)) :
    bytes = counted write all.toList ++ rest ∧ all.toList.length < UInt32.size ∧
      ∀ value ∈ all.toList, good value := by
  obtain ⟨⟨count, left⟩, front, many⟩ := bind_eq_ok taken
  obtain ⟨rfl, small, _⟩ := takeCount_eq_ok front
  obtain ⟨items, rfl, rfl, rfl, isGood⟩ := takeMany_eq_ok each many
  rw [Array.empty_append]
  refine ⟨?_, small, isGood⟩
  rw [counted, List.append_assoc]

end

/-! ## Records -/

theorem flagBits_of_ofFlagBits? {bits : Nat} {isPrivate isGlobal : Bool}
    (same : Rule.ofFlagBits? bits = some (isPrivate, isGlobal)) :
    bits = isPrivate.toNat + 2 * isGlobal.toNat := by
  rw [Rule.ofFlagBits?] at same
  split at same
  · rename_i small
    revert isPrivate isGlobal
    interval_cases bits <;> decide
  · cases same

theorem bits_of_ofBits? {bits : Nat} {modifiers : Modifiers}
    (same : Modifiers.ofBits? bits = some modifiers) : bits = modifiers.bits := by
  rw [Modifiers.ofBits?] at same
  split at same
  · rename_i small
    cases same
    interval_cases bits <;> rfl
  · cases same

theorem takeStringNumber_eq_ok {rule : String} {strings number : Nat}
    (taken : takeStringNumber rule strings bytes = .ok (number, rest)) :
    bytes = word number ++ rest ∧ number < strings := by
  obtain ⟨⟨number, left⟩, front, known⟩ := bind_eq_ok taken
  obtain ⟨same, _⟩ := takeWord_eq_ok front
  dsimp only at known
  split at known
  · rename_i small
    cases known
    exact ⟨same, small⟩
  · cases known

theorem takeRule_eq_ok {spaces strings : Nat} {rule : Rule}
    (taken : takeRule spaces strings bytes = .ok (rule, rest)) :
    bytes = writeRule rule ++ rest ∧ RuleFits rule := by
  obtain ⟨⟨identifier, _⟩, first, afterIdentifier⟩ := bind_eq_ok taken
  obtain ⟨rfl, identifierFits⟩ := takeText_eq_ok first
  obtain ⟨⟨space, _⟩, second, afterSpace⟩ := bind_eq_ok afterIdentifier
  obtain ⟨rfl, _⟩ := takeWord_eq_ok second
  dsimp only at afterSpace
  split at afterSpace
  · cases afterSpace
  obtain ⟨⟨flags, _⟩, third, afterFlags⟩ := bind_eq_ok afterSpace
  obtain ⟨rfl, _⟩ := takeNumber_eq_ok third
  dsimp only at afterFlags
  split at afterFlags
  · cases afterFlags
  rename_i isPrivate isGlobal known
  obtain ⟨⟨own, _⟩, fourth, afterStrings⟩ := bind_eq_ok afterFlags
  obtain ⟨rfl, ownFits, _⟩ := takeCounted_eq_ok takeStringNumber_eq_ok fourth
  obtain ⟨⟨tags, _⟩, fifth, afterTags⟩ := bind_eq_ok afterStrings
  obtain ⟨rfl, tagsFit, eachTag⟩ := takeCounted_eq_ok takeText_eq_ok fifth
  cases afterTags
  refine ⟨?_, identifierFits, ownFits, tagsFit, eachTag⟩
  simp only [writeRule, Rule.flagBits, ← flagBits_of_ofFlagBits? known, byte, List.append_assoc]

theorem source_of_ofSource {source : String} {caseless : Bool} {regex : Regex caseless}
    (compiled : Regex.ofSource source caseless = .ok regex) : regex.source = source := by
  rw [Regex.ofSource] at compiled
  split at compiled
  · cases compiled
    rfl
  · cases compiled

theorem map_zipWith_maskedByte {values masks : List UInt8} (same : values.length = masks.length) :
    (values.zipWith MaskedByte.mk masks).map MaskedByte.value = values ∧
      (values.zipWith MaskedByte.mk masks).map MaskedByte.mask = masks := by
  induction values generalizing masks with
  | nil => exact ⟨rfl, (List.length_eq_zero_iff.mp same.symm).symm⟩
  | cons value values ih =>
      cases masks with
      | nil => cases same
      | cons mask masks =>
          obtain ⟨first, second⟩ := ih (Nat.succ.inj same)
          exact ⟨congrArg (value :: ·) first, congrArg (mask :: ·) second⟩

theorem takePattern_eq_ok {identifier : String} {caseless : Bool} {pattern : Pattern caseless}
    (taken : takePattern identifier caseless bytes = .ok (pattern, rest)) :
    bytes = writePattern pattern ++ rest ∧ PatternFits pattern := by
  obtain ⟨⟨kind, _⟩, first, afterKind⟩ := bind_eq_ok taken
  obtain ⟨rfl, _⟩ := takeNumber_eq_ok first
  dsimp only at afterKind
  split at afterKind
  · obtain ⟨⟨text, _⟩, second, afterText⟩ := bind_eq_ok afterKind
    obtain ⟨rfl, fits⟩ := takeSized_eq_ok second
    cases afterText
    exact ⟨(List.append_assoc _ _ _).symm, fits⟩
  · obtain ⟨⟨values, _⟩, second, afterValues⟩ := bind_eq_ok afterKind
    obtain ⟨rfl, fits⟩ := takeSized_eq_ok second
    obtain ⟨⟨masks, _⟩, third, afterMasks⟩ := bind_eq_ok afterValues
    obtain ⟨rfl, _⟩ := takeSized_eq_ok third
    dsimp only at afterMasks
    split at afterMasks
    · cases afterMasks
    rename_i matching
    cases afterMasks
    obtain ⟨sameValues, sameMasks⟩ := map_zipWith_maskedByte (Decidable.not_not.mp matching)
    constructor
    · rw [writePattern, sameValues, sameMasks]
      simp only [byte, List.append_assoc]
    · rw [PatternFits, List.length_zipWith]
      exact Nat.lt_of_le_of_lt (Nat.min_le_left _ _) fits
  · obtain ⟨⟨source, _⟩, second, afterSource⟩ := bind_eq_ok afterKind
    obtain ⟨rfl, fits⟩ := takeText_eq_ok second
    dsimp only at afterSource
    split at afterSource
    · rename_i regex compiled
      cases afterSource
      rw [writePattern, PatternFits, source_of_ofSource compiled]
      exact ⟨(List.append_assoc _ _ _).symm, fits⟩
    · cases afterSource
  · cases afterKind

theorem takeString_eq_ok {rules : Nat} {string : StringDef}
    (taken : takeString rules bytes = .ok (string, rest)) :
    bytes = writeString string ++ rest ∧ StringFits string := by
  obtain ⟨⟨identifier, _⟩, first, afterIdentifier⟩ := bind_eq_ok taken
  obtain ⟨rfl, identifierFits⟩ := takeText_eq_ok first
  obtain ⟨⟨rule, _⟩, second, afterRule⟩ := bind_eq_ok afterIdentifier
  obtain ⟨rfl, _⟩ := takeWord_eq_ok second
  dsimp only at afterRule
  split at afterRule
  · cases afterRule
  obtain ⟨⟨bits, _⟩, third, afterModifiers⟩ := bind_eq_ok afterRule
  obtain ⟨rfl, _⟩ := takeNumber_eq_ok third
  dsimp only at afterModifiers
  split at afterModifiers
  · cases afterModifiers
  rename_i modifiers known
  obtain ⟨⟨pattern, _⟩, fourth, afterPattern⟩ := bind_eq_ok afterModifiers
  obtain ⟨rfl, patternFits⟩ := takePattern_eq_ok fourth
  cases afterPattern
  refine ⟨?_, identifierFits, patternFits⟩
  simp only [writeString, bits_of_ofBits? known, byte, List.append_assoc]

/-! ## External variables -/

theorem takeValue_eq_ok {identifier : String} {value : ExternalValue}
    (taken : takeValue bytes = .ok (value, rest)) :
    ∃ record, bytes = record ++ rest ∧ ValueFits value ∧
      StoredAs ⟨identifier, value⟩ (sizedText identifier ++ record) := by
  have written {value : ExternalValue} : StoredAs ⟨identifier, value⟩
    (sizedText identifier ++ writeValue value) := .written _
  obtain ⟨⟨kind, _⟩, first, afterKind⟩ := bind_eq_ok taken
  obtain ⟨rfl, _⟩ := takeNumber_eq_ok first
  dsimp only at afterKind
  split at afterKind
  · obtain ⟨⟨number, _⟩, second, afterNumber⟩ := bind_eq_ok afterKind
    obtain ⟨rfl, small⟩ := takeNumber_eq_ok second
    cases afterNumber
    refine ⟨_, ?_, trivial, written⟩
    have same : (UInt64.ofNat number).toInt64.toUInt64.toNat = number := by
      rw [UInt64.toUInt64_toInt64, UInt64.toNat_ofNat_of_lt' small]
    rw [writeValue, same, List.append_assoc]
    rfl
  · obtain ⟨⟨number, _⟩, second, afterNumber⟩ := bind_eq_ok afterKind
    obtain ⟨rfl, small⟩ := takeNumber_eq_ok second
    cases afterNumber
    by_cases none : number = 0
    · subst none
      exact ⟨[1, 0], rfl, trivial, .written ⟨identifier, .boolean false⟩⟩
    · have isTrue : UInt8.ofNat number ≠ 0 := by
        intro zero
        have same := congrArg UInt8.toNat zero
        rw [UInt8.toNat_ofNat_of_lt' small] at same
        exact none same
      refine ⟨[1, UInt8.ofNat number], rfl, trivial, ?_⟩
      rw [decide_eq_true none]
      exact .truth identifier _ isTrue
  · obtain ⟨⟨number, _⟩, second, afterNumber⟩ := bind_eq_ok afterKind
    obtain ⟨rfl, small⟩ := takeNumber_eq_ok second
    cases afterNumber
    refine ⟨_, ?_, trivial, written⟩
    have same : (UInt64.ofNat number).toNat = number := UInt64.toNat_ofNat_of_lt' small
    rw [writeValue, same, List.append_assoc]
    rfl
  · obtain ⟨⟨text, _⟩, second, afterText⟩ := bind_eq_ok afterKind
    obtain ⟨rfl, fits⟩ := takeSized_eq_ok second
    cases afterText
    exact ⟨_, (List.append_assoc _ _ _).symm, fits, written⟩
  · obtain ⟨⟨text, _⟩, second, afterText⟩ := bind_eq_ok afterKind
    obtain ⟨rfl, fits⟩ := takeSized_eq_ok second
    cases afterText
    exact ⟨_, (List.append_assoc _ _ _).symm, fits, written⟩
  · cases afterKind

theorem takeExternal_eq_ok {external : External}
    (taken : takeExternal bytes = .ok (external, rest)) :
    ∃ record, bytes = record ++ rest ∧
      (TextFits external.identifier ∧ ValueFits external.value) ∧ StoredAs external record := by
  obtain ⟨⟨identifier, _⟩, first, afterIdentifier⟩ := bind_eq_ok taken
  obtain ⟨rfl, identifierFits⟩ := takeText_eq_ok first
  obtain ⟨⟨value, _⟩, second, afterValue⟩ := bind_eq_ok afterIdentifier
  obtain ⟨record, rfl, valueFits, stored⟩ := takeValue_eq_ok second
  cases afterValue
  exact ⟨_, (List.append_assoc _ _ _).symm, ⟨identifierFits, valueFits⟩, stored⟩

/-! ## Tables -/

theorem takeCell_eq_ok {cell : Cell} (taken : takeCell bytes = .ok (cell, rest)) :
    bytes = writeCell cell ++ rest := by
  obtain ⟨⟨digits, _⟩, front, same⟩ := bind_eq_ok taken
  obtain ⟨rfl, length⟩ := takeBytes_eq_ok front
  have word_value {part : List UInt8} (four : part.length = 4) :
      word (UInt32.ofNat (LittleEndian.value part)).toNat = part := by
    have small := LittleEndian.value_lt part
    rw [four] at small
    rw [UInt32.toNat_ofNat_of_lt' small, word, ← four, LittleEndian.encode_value]
  cases same
  have first : (digits.take 4).length = 4 := List.length_take_of_le (by omega)
  have second : (digits.drop 4).length = 4 := by rw [List.length_drop, length]
  rw [writeCell, word_value first, word_value second, List.take_append_drop]

theorem takeCandidate_eq_ok {candidate : Candidate}
    (taken : takeCandidate bytes = .ok (candidate, rest)) :
    bytes = writeCandidate candidate ++ rest := by
  obtain ⟨⟨backtrack, _⟩, first, afterBacktrack⟩ := bind_eq_ok taken
  obtain ⟨rfl, small⟩ := takeNumber_eq_ok first
  obtain ⟨⟨string, _⟩, second, afterString⟩ := bind_eq_ok afterBacktrack
  obtain ⟨rfl, _⟩ := takeWord_eq_ok second
  obtain ⟨⟨next, _⟩, third, afterNext⟩ := bind_eq_ok afterString
  obtain rfl := takeOptional_eq_ok third
  cases afterNext
  rw [writeCandidate, UInt16.toNat_ofNat_of_lt' small, half, List.append_assoc, List.append_assoc]

/-! ## The start of a file -/

theorem takeHeader_eq_ok {header : Header} (taken : takeHeader bytes = .ok (header, rest)) :
    let numbers := [header.codeStart, header.spaces, header.rules, header.strings, header.externals,
      header.states, header.candidates, header.cells, header.code]
    bytes = numbers.flatMap word ++ rest ∧ ∀ number ∈ numbers, number < UInt32.size := by
  obtain ⟨⟨codeStart, _⟩, first, afterFirst⟩ := bind_eq_ok taken
  obtain ⟨rfl, codeStartFits⟩ := takeWord_eq_ok first
  obtain ⟨⟨spaces, _⟩, second, afterSecond⟩ := bind_eq_ok afterFirst
  obtain ⟨rfl, spacesFit⟩ := takeWord_eq_ok second
  obtain ⟨⟨rules, _⟩, third, afterThird⟩ := bind_eq_ok afterSecond
  obtain ⟨rfl, rulesFit⟩ := takeWord_eq_ok third
  obtain ⟨⟨strings, _⟩, fourth, afterFourth⟩ := bind_eq_ok afterThird
  obtain ⟨rfl, stringsFit⟩ := takeWord_eq_ok fourth
  obtain ⟨⟨externals, _⟩, fifth, afterFifth⟩ := bind_eq_ok afterFourth
  obtain ⟨rfl, externalsFit⟩ := takeWord_eq_ok fifth
  obtain ⟨⟨states, _⟩, sixth, afterSixth⟩ := bind_eq_ok afterFifth
  obtain ⟨rfl, statesFit⟩ := takeWord_eq_ok sixth
  obtain ⟨⟨candidates, _⟩, seventh, afterSeventh⟩ := bind_eq_ok afterSixth
  obtain ⟨rfl, candidatesFit⟩ := takeWord_eq_ok seventh
  obtain ⟨⟨cells, _⟩, eighth, afterEighth⟩ := bind_eq_ok afterSeventh
  obtain ⟨rfl, cellsFit⟩ := takeWord_eq_ok eighth
  obtain ⟨⟨code, _⟩, ninth, afterNinth⟩ := bind_eq_ok afterEighth
  obtain ⟨rfl, codeFits⟩ := takeWord_eq_ok ninth
  cases afterNinth
  intro numbers
  constructor
  · simp only [numbers, List.flatMap_cons, List.flatMap_nil, List.append_assoc, List.nil_append]
  · simp only [numbers, List.forall_mem_cons]
    exact ⟨codeStartFits, spacesFit, rulesFit, stringsFit, externalsFit, statesFit, candidatesFit,
      cellsFit, codeFits, List.forall_mem_nil _⟩

theorem takeMagic_eq_ok {started : Unit} (taken : takeMagic bytes = .ok (started, rest)) :
    bytes = magic ++ word version ++ rest := by
  rw [takeMagic] at taken
  split at taken
  · cases taken
  rename_i enough
  split at taken
  · cases taken
  rename_i letters
  split at taken
  · cases taken
  rename_i number
  cases taken
  rw [Bool.not_eq_true, Bool.not_eq_false', hasAtLeast_iff] at enough
  have length : ((bytes.drop 4).take 4).length = 4 := by
    rw [List.length_take, List.length_drop]
    omega
  have isVersion : word version = (bytes.drop 4).take 4 := by
    rw [← Decidable.not_not.mp number, word]
    nth_rewrite 1 [← length]
    exact LittleEndian.encode_value _
  rw [← Decidable.not_not.mp letters, isVersion, List.append_assoc]
  have later : (bytes.drop 4).take 4 ++ bytes.drop 8 = bytes.drop 4 := by
    have split := List.take_append_drop 4 (bytes.drop 4)
    rwa [List.drop_drop] at split
  rw [later, List.take_append_drop]

/-! ## Files -/

variable {rules : RuleSet}

theorem assemble_eq_ok {sections : Sections} (assembled : assemble sections rest = .ok rules) :
    rest = [] ∧ ∃ automaton : Automaton,
      automaton.toTables =
        ⟨sections.cells, sections.heads, sections.candidates, sections.strings.size⟩ ∧
      automaton.stateCount = sections.header.states ∧
      rules = {
        spaces := sections.spaces, rules := sections.rules, strings := sections.strings,
        externals := sections.externals.toList, automaton, code := sections.code,
        codeStart := sections.header.codeStart } := by
  rw [assemble] at assembled
  split at assembled
  · cases assembled
  rename_i ended
  split at assembled
  · cases assembled
  split at assembled
  · cases assembled
  rename_i automaton opened
  split at assembled
  · cases assembled
  rename_i states
  cases assembled
  rw [Bool.not_eq_true, Bool.not_eq_false', List.isEmpty_iff] at ended
  exact ⟨ended, automaton, Automaton.toTables_of_ofTables opened, Decidable.not_not.mp states, rfl⟩

/-- A file that is accepted is a file of the rule set that is read from it. -/
theorem fileWith_of_read (accepted : read bytes = .ok rules) :
    rules.Storable ∧ ∃ stored, bytes = fileWith rules stored ∧
      List.Forall₂ StoredAs rules.externals stored := by
  rw [read_eq] at accepted
  obtain ⟨⟨_, _⟩, started, afterMagic⟩ := bind_eq_ok accepted
  obtain rfl := takeMagic_eq_ok started
  obtain ⟨⟨sections, rest⟩, taken, assembled⟩ := bind_eq_ok afterMagic
  obtain ⟨⟨header, _⟩, first, afterHeader⟩ := bind_eq_ok taken
  obtain ⟨rfl, numbersFit⟩ := takeHeader_eq_ok first
  obtain ⟨⟨spaces, _⟩, second, afterSpaces⟩ := bind_eq_ok afterHeader
  obtain ⟨spaceCount, rfl, eachSpace⟩ := takeItems_eq_ok takeText_eq_ok second
  obtain ⟨⟨ruleArray, _⟩, third, afterRules⟩ := bind_eq_ok afterSpaces
  obtain ⟨ruleCount, rfl, eachRule⟩ := takeItems_eq_ok takeRule_eq_ok third
  obtain ⟨⟨strings, _⟩, fourth, afterStrings⟩ := bind_eq_ok afterRules
  obtain ⟨stringCount, rfl, eachString⟩ := takeItems_eq_ok takeString_eq_ok fourth
  obtain ⟨⟨externals, _⟩, fifth, afterExternals⟩ := bind_eq_ok afterStrings
  obtain ⟨stored, externalCount, rfl, isStored⟩ := takeItems_stored takeExternal_eq_ok fifth
  obtain ⟨⟨cells, _⟩, sixth, afterCells⟩ := bind_eq_ok afterExternals
  obtain ⟨cellCount, rfl, _⟩ :=
    takeItems_eq_ok (fun taken => ⟨takeCell_eq_ok taken, trivial⟩) sixth
  obtain ⟨⟨heads, _⟩, seventh, afterHeads⟩ := bind_eq_ok afterCells
  obtain ⟨headList, rfl, _, rfl, _⟩ :=
    takeMany_eq_ok (fun taken => ⟨takeOptional_eq_ok taken, trivial⟩) seventh
  obtain ⟨⟨candidates, _⟩, eighth, afterCandidates⟩ := bind_eq_ok afterHeads
  obtain ⟨candidateCount, rfl, _⟩ :=
    takeItems_eq_ok (fun taken => ⟨takeCandidate_eq_ok taken, trivial⟩) eighth
  obtain ⟨⟨code, _⟩, ninth, afterCode⟩ := bind_eq_ok afterCandidates
  obtain ⟨rfl, codeLength⟩ := takeBytes_eq_ok ninth
  cases afterCode
  obtain ⟨rfl, automaton, tables, states, rfl⟩ := assemble_eq_ok assembled
  have sameCells : automaton.cells = cells := congrArg Tables.cells tables
  have sameHeads : automaton.heads = headList.toArray :=
    (congrArg Tables.heads tables).trans Array.empty_append
  have sameCandidates : automaton.candidates = candidates := congrArg Tables.candidates tables
  have sameCounts : [header.codeStart, header.spaces, header.rules, header.strings,
      header.externals, header.states, header.candidates, header.cells, header.code] =
      [header.codeStart, spaces.size, ruleArray.size, strings.size, externals.toList.length,
        automaton.stateCount, automaton.candidates.size, automaton.cells.size, code.length] := by
    rw [spaceCount, ruleCount, stringCount, Array.length_toList, externalCount, states,
      sameCandidates, candidateCount, sameCells, cellCount, codeLength]
  rw [sameCounts] at numbersFit ⊢
  obtain ⟨eachExternal, isStored⟩ := (List.forall₂_and_left _ _).mp isStored
  refine ⟨⟨numbersFit, eachSpace, eachRule, eachString, eachExternal⟩, stored, ?_, isStored⟩
  rw [fileWith, sameCells, sameHeads, sameCandidates, counts]
  simp only [List.append_assoc, List.append_nil, sameCells, sameCandidates]

theorem exists_fileWith (rules : RuleSet) :
    ∃ front back, ∀ stored, fileWith rules stored = front ++ stored.flatten ++ back := by
  refine ⟨magic ++ word version ++ (counts rules).flatMap word ++
    rules.spaces.toList.flatMap sizedText ++ rules.rules.toList.flatMap writeRule ++
    rules.strings.toList.flatMap writeString, rules.automaton.cells.toList.flatMap writeCell ++
    rules.automaton.heads.toList.flatMap optional ++
    rules.automaton.candidates.toList.flatMap writeCandidate ++ rules.code, fun stored => ?_⟩
  simp only [fileWith, List.append_assoc]

theorem length_flatten_of_stored {externals : List External} {stored : List (List UInt8)}
    (each : List.Forall₂ StoredAs externals stored) :
    stored.flatten.length = (externals.flatMap writeExternal).length := by
  induction each with
  | nil => rfl
  | cons isFirst _ ih =>
      rw [List.flatten_cons, List.flatMap_cons, List.length_append, List.length_append,
        isFirst.length_eq, ih]

/-- Saving a rule set that was loaded gives the file that it was loaded from, but for the values of
variables that are true, which may have been stored as any byte but zero. The rule set is read back
from what was saved, so saving it again makes no further difference. -/
theorem write_read (accepted : read bytes = .ok rules) :
    (∃ front stored back, bytes = front ++ stored.flatten ++ back ∧
      write rules = front ++ rules.externals.flatMap writeExternal ++ back ∧
      List.Forall₂ StoredAs rules.externals stored) ∧
    (write rules).length = bytes.length ∧
    read (write rules) = .ok rules ∧ (read (write rules)).map write = .ok (write rules) := by
  obtain ⟨storable, stored, same, isStored⟩ := fileWith_of_read accepted
  obtain ⟨front, back, around⟩ := exists_fileWith rules
  have consistent : rules.Consistent := by
    have ran := (Strict.read_ran bytes).2
    rwa [accepted] at ran
  have before : bytes = front ++ stored.flatten ++ back := same.trans (around stored)
  have after : write rules = front ++ rules.externals.flatMap writeExternal ++ back :=
    (write_eq rules).trans (around _)
  have again := read_write consistent storable
  refine ⟨⟨front, stored, back, before, after, isStored⟩, ?_, again, ?_⟩
  · rw [before, after]
    simp only [List.length_append, length_flatten_of_stored isStored]
  · rw [again]
    rfl

/-- A value that is stored as seven is loaded as true, and saved as one. -/
theorem write_read_seven :
    let record : List UInt8 := sizedText "limit" ++ [1, 7]
    ∃ rules, rules.externals = [⟨"limit", .boolean true⟩] ∧
      read (fileWith rules [record]) = .ok rules ∧
      write rules = fileWith rules [sizedText "limit" ++ [1, 1]] ∧
      (write rules).length = (fileWith rules [record]).length ∧ read (write rules) = .ok rules := by
  intro record
  obtain ⟨automaton, none, cells, candidates⟩ := Automaton.exists_blank
  let rules := (Scan.ofCode automaton [0]).withExternals [⟨"limit", .boolean true⟩]
  have consistent : rules.Consistent := ⟨nofun, nofun, nofun, none, Nat.one_pos⟩
  have fits : rules.FitsFile := by
    refine ⟨?_, nofun, nofun, nofun, ?_⟩
    · change ∀ count ∈ [0, 0, 0, 1, automaton.candidates.size, automaton.cells.size, 1], _
      simp only [List.forall_mem_cons]
      refine ⟨by decide, by decide, by decide, by decide, ?_, ?_, by decide, nofun⟩
      · exact Nat.lt_trans candidates (by decide)
      · exact Nat.lt_trans cells (by decide)
    · intro external member
      obtain rfl := List.mem_singleton.mp member
      exact ⟨by decide, trivial⟩
  have stored : List.Forall₂ StoredAs rules.externals [record] :=
    .cons (.truth "limit" 7 (by decide)) .nil
  have accepted : read (fileWith rules [record]) = .ok rules :=
    read_fileWith consistent (storable consistent fits) stored
  obtain ⟨_, lengths, again, _⟩ := write_read accepted
  exact ⟨rules, rfl, accepted, rfl, lengths, again⟩

end ByteScan.RuleFile
