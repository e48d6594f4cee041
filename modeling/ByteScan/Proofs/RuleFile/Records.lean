import ByteScan.Proofs.Regex.Prefix
import ByteScan.Proofs.Text.Ascii
import ByteScan.RuleFile.Reader
import Mathlib.Data.List.Forall2

/-!
# Reading back records

`Reads` says that some bytes are taken as a value, whatever follows them. It holds of every record
that is written, if the numbers in it fit in their words.
-/

namespace ByteScan.RuleFile

/-- Some bytes are taken as a value from in front of whatever follows. -/
def Reads (reading : Reading α) (bytes : List UInt8) (value : α) : Prop :=
  ∀ rest, reading (bytes ++ rest) = .ok (value, rest)

/-! ## Numbers, bytes and texts -/

section

variable (part : Part)

theorem takeBytes_append (bytes rest : List UInt8) :
    takeBytes part bytes.length (bytes ++ rest) = .ok (bytes, rest) := by
  have enough : hasAtLeast bytes.length (bytes ++ rest) = true := by
    rw [hasAtLeast_iff, List.length_append]
    exact Nat.le_add_right _ _
  rw [takeBytes, if_pos enough, List.take_left, List.drop_left]

theorem takeNumber_reads {width number : Nat} (fits : number < Nat.pow 256 width) :
    Reads (takeNumber part width) (LittleEndian.encode width number) number := by
  intro rest
  have taken : takeBytes part width (LittleEndian.encode width number ++ rest) =
      .ok (LittleEndian.encode width number, rest) := by
    have taken := takeBytes_append part (LittleEndian.encode width number) rest
    rwa [LittleEndian.length_encode] at taken
  simp only [takeNumber, taken, bind, Except.bind, LittleEndian.value_encode_of_lt fits]

theorem takeWord_reads {number : Nat} (fits : number < UInt32.size) :
    Reads (takeNumber part 4) (word number) number :=
  takeNumber_reads part fits

theorem takeOptional_reads {index : Option Nat}
    (fits : ∀ number, index = some number → number + 1 < UInt32.size) :
    Reads (takeOptional part) (optional index) index := by
  intro rest
  cases index with
  | none =>
      have taken := takeWord_reads part (show 0 < UInt32.size by decide) rest
      simp only [takeOptional, optional, taken, bind, Except.bind, if_true]
  | some number =>
      have taken := takeWord_reads part (fits number rfl) rest
      simp only [takeOptional, optional, taken, bind, Except.bind, Nat.add_one_ne_zero, if_false,
        Nat.add_sub_cancel]

theorem checkCount_ok {size count : Nat} {bytes : List UInt8} (enough : count * size ≤ bytes.length) :
    checkCount part size count bytes = .ok () := by
  rw [checkCount, if_pos ((hasAtLeast_iff _ _).mpr enough)]

theorem takeCount_word {size count : Nat} {rest : List UInt8} (fits : count < UInt32.size)
    (enough : count * size ≤ rest.length) :
    takeCount part size (word count ++ rest) = .ok (count, rest) := by
  simp only [takeCount, takeWord_reads part fits rest, checkCount_ok part enough, bind, Except.bind]

theorem takeSized_reads {bytes : List UInt8} (fits : bytes.length < UInt32.size) :
    Reads (takeSized part) (sized bytes) bytes := by
  intro rest
  have enough : bytes.length * 1 ≤ (bytes ++ rest).length := by
    rw [Nat.mul_one, List.length_append]
    exact Nat.le_add_right _ _
  rw [sized, List.append_assoc]
  simp only [takeSized, takeCount_word part fits enough, bind, Except.bind, List.take_left,
    List.drop_left]

theorem takeText_reads {text : String} (fits : text.toUTF8.toList.length < UInt32.size) :
    Reads (takeText part) (sizedText text) text := by
  intro rest
  have encoded : String.fromUTF8? ⟨text.toUTF8.toList.toArray⟩ = some text := by
    rw [Text.toArray_toList]
    exact dif_pos text.isValidUTF8
  simp only [takeText, sizedText, takeSized_reads part fits rest, bind, Except.bind, encoded]

end

/-! ## Lists of items -/

section

variable {reading : Reading α}

theorem takeMany_flatten {records : List (List UInt8)} {items : List α}
    (each : List.Forall₂ (Reads reading) records items) (taken : Array α) (rest : List UInt8) :
    takeMany reading items.length taken (records.flatten ++ rest) =
      .ok (taken ++ items.toArray, rest) := by
  induction each generalizing taken with
  | nil =>
      rw [List.length_nil, takeMany, List.flatten_nil, List.nil_append, Array.append_empty]
  | @cons record item records items isFirst _ ih =>
      rw [List.length_cons, takeMany, List.flatten_cons, List.append_assoc, isFirst]
      have same : taken.push item ++ items.toArray = taken ++ (item :: items).toArray := by
        apply Array.ext'
        simp
      simp only [ih, same]

theorem le_length_flatten {records : List (List UInt8)} {size : Nat}
    (sizes : ∀ record ∈ records, size ≤ record.length) :
    records.length * size ≤ records.flatten.length := by
  induction records with
  | nil =>
      rw [List.length_nil, Nat.zero_mul]
      exact Nat.zero_le _
  | cons record records ih =>
      obtain ⟨isFirst, others⟩ := List.forall_mem_cons.mp sizes
      have rest := ih others
      rw [List.length_cons, List.flatten_cons, List.length_append, Nat.add_mul]
      omega

theorem takeItems_flatten (part : Part) (size : Nat) {records : List (List UInt8)}
    {items : Array α} (each : List.Forall₂ (Reads reading) records items.toList)
    (sizes : ∀ record ∈ records, size ≤ record.length) :
    Reads (takeItems part size items.size reading) records.flatten items := by
  intro rest
  have enough : items.size * size ≤ (records.flatten ++ rest).length := by
    rw [List.length_append, ← Array.length_toList, ← each.length_eq]
    exact Nat.le_trans (le_length_flatten sizes) (Nat.le_add_right _ _)
  have taken := takeMany_flatten each #[] rest
  rw [Array.length_toList] at taken
  simp only [takeItems, checkCount_ok part enough, taken, bind, Except.bind, Array.empty_append]

variable {write : α → List UInt8} {items : List α}

theorem forall₂_map_reads (each : ∀ item ∈ items, Reads reading (write item) item) :
    List.Forall₂ (Reads reading) (items.map write) items := by
  rw [List.forall₂_map_left_iff, List.forall₂_same]
  exact each

theorem takeMany_flatMap (each : ∀ item ∈ items, Reads reading (write item) item)
    (taken : Array α) (rest : List UInt8) :
    takeMany reading items.length taken (items.flatMap write ++ rest) =
      .ok (taken ++ items.toArray, rest) :=
  takeMany_flatten (forall₂_map_reads each) taken rest

theorem le_length_flatMap {size : Nat} (sizes : ∀ item ∈ items, size ≤ (write item).length) :
    items.length * size ≤ (items.flatMap write).length := by
  have long := le_length_flatten (List.forall_mem_map.mpr sizes)
  rwa [List.length_map] at long

theorem takeItems_reads (part : Part) (size : Nat) {items : Array α}
    (each : ∀ item ∈ items, Reads reading (write item) item)
    (sizes : ∀ item ∈ items, size ≤ (write item).length) :
    Reads (takeItems part size items.size reading) (items.toList.flatMap write) items :=
  takeItems_flatten part size
    (forall₂_map_reads fun item member => each item (Array.mem_toList_iff.mp member))
    (List.forall_mem_map.mpr fun item member => sizes item (Array.mem_toList_iff.mp member))

theorem takeCounted_reads (each : ∀ item ∈ items, Reads reading (write item) item) (part : Part)
    {size : Nat}
    (sizes : ∀ item ∈ items, size ≤ (write item).length) (fits : items.length < UInt32.size) :
    Reads (takeCounted part size reading) (counted write items) items.toArray := by
  intro rest
  have enough : items.length * size ≤ (items.flatMap write ++ rest).length := by
    rw [List.length_append]
    exact Nat.le_trans (le_length_flatMap sizes) (Nat.le_add_right _ _)
  rw [counted, List.append_assoc]
  simp only [takeCounted, takeCount_word part fits enough, takeMany_flatMap each, bind, Except.bind,
    Array.empty_append]

end

/-! ## Rules -/

def TextFits (text : String) : Prop := text.toUTF8.toList.length < UInt32.size

theorem textFits_iff (text : String) : text.utf8ByteSize < UInt32.size ↔ TextFits text := by
  have same := congrArg ByteArray.size (Text.toArray_toList text.toUTF8)
  change text.toUTF8.toList.length = text.utf8ByteSize at same
  rw [TextFits, same]

instance (text : String) : Decidable (TextFits text) := decidable_of_iff _ (textFits_iff text)

theorem length_sizedText (text : String) : 4 ≤ (sizedText text).length := by
  rw [sizedText, sized, List.length_append, word, LittleEndian.length_encode]
  omega

theorem length_word (number : Nat) : (word number).length = 4 := LittleEndian.length_encode 4 number

theorem ofFlagBits?_flagBits (rule : Rule) :
    Rule.ofFlagBits? rule.flagBits = some (rule.isPrivate, rule.isGlobal) := by
  rw [Rule.flagBits]
  cases rule.isPrivate <;> cases rule.isGlobal <;> rfl

theorem flagBits_lt (rule : Rule) : rule.flagBits < Nat.pow 256 1 := by
  rw [Rule.flagBits]
  cases rule.isPrivate <;> cases rule.isGlobal <;> decide

structure RuleFits (rule : Rule) : Prop where
  identifier : TextFits rule.identifier
  strings : rule.strings.length < UInt32.size
  tags : rule.tags.length < UInt32.size
  eachTag : ∀ tag ∈ rule.tags, TextFits tag

theorem takeRule_reads {rule : Rule} {spaces strings : Nat} (fits : RuleFits rule)
    (inSpaces : rule.space < spaces) (spacesFit : spaces < UInt32.size)
    (inStrings : ∀ string ∈ rule.strings, string < strings) (stringsFit : strings < UInt32.size) :
    Reads (takeRule spaces strings) (writeRule rule) rule := by
  intro rest
  have ownReads (string : Nat) (member : string ∈ rule.strings) :
      Reads (takeStringNumber rule.identifier strings) (word string) string := by
    intro rest
    have known := inStrings string member
    simp only [takeStringNumber, takeWord_reads .ruleString (Nat.lt_trans known stringsFit) rest, bind,
      Except.bind, if_pos known]
  have own := takeCounted_reads ownReads .ruleStrings (fun string _ => Nat.le_of_eq (length_word string).symm) fits.strings
  have tags := takeCounted_reads
    (fun tag member => takeText_reads .ruleTag (fits.eachTag tag member)) .ruleTags
    (fun tag _ => length_sizedText tag) fits.tags
  simp only [takeRule, writeRule, List.append_assoc,
    takeText_reads .ruleIdentifier fits.identifier _,
    takeWord_reads .ruleSpace (Nat.lt_trans inSpaces spacesFit) _,
    takeNumber_reads .ruleFlags (flagBits_lt rule) _, bind, Except.bind, own _, tags _,
    ofFlagBits?_flagBits, Nat.not_le.mpr inSpaces, if_false, byte]

/-! ## Strings -/

def PatternFits : Pattern caseless → Prop
  | .text bytes => bytes.length < UInt32.size
  | .hex bytes => bytes.length < UInt32.size
  | .regex regex => TextFits regex.source

instance : (pattern : Pattern caseless) → Decidable (PatternFits pattern)
  | .text _ => inferInstanceAs (Decidable (_ < _))
  | .hex _ => inferInstanceAs (Decidable (_ < _))
  | .regex regex => inferInstanceAs (Decidable (TextFits regex.source))

structure StringFits (string : StringDef) : Prop where
  identifier : TextFits string.identifier
  pattern : PatternFits string.pattern

theorem takePattern_reads (identifier : String) {pattern : Pattern caseless}
    (fits : PatternFits pattern) :
    Reads (takePattern identifier caseless) (writePattern pattern) pattern := by
  intro rest
  have kind {number : Nat} (small : number < Nat.pow 256 1) (rest : List UInt8) :
      takeNumber .stringKind 1 (byte number ++ rest) = .ok (number, rest) :=
    takeNumber_reads .stringKind small rest
  cases pattern with
  | text bytes =>
      have text := takeSized_reads .textBytes fits
      simp only [takePattern, writePattern, List.append_assoc, kind (show 0 < _ by decide), bind,
        Except.bind, text _]
  | hex bytes =>
      have values := takeSized_reads .hexBytes
        (show (bytes.map MaskedByte.value).length < UInt32.size by rwa [List.length_map])
      have masks := takeSized_reads .hexMask
        (show (bytes.map MaskedByte.mask).length < UInt32.size by rwa [List.length_map])
      have zipped : (bytes.map MaskedByte.value).zipWith MaskedByte.mk
          (bytes.map MaskedByte.mask) = bytes := by
        rw [List.zipWith_map, List.zipWith_self]
        exact List.map_id bytes
      simp only [takePattern, writePattern, List.append_assoc, kind (show 1 < _ by decide), bind,
        Except.bind, values _, masks _, List.length_map, ne_eq, not_true_eq_false, if_false, zipped]
  | regex regex =>
      have source := takeText_reads .regexSource fits
      have compiles : Regex.ofSource regex.source caseless = .ok regex :=
        Regex.ofSource_eq regex.compiles
      simp only [takePattern, writePattern, List.append_assoc, kind (show 2 < _ by decide), bind,
        Except.bind, source _, compiles]

theorem bits_lt (modifiers : Modifiers) : modifiers.bits < Nat.pow 256 1 := by
  rcases modifiers with ⟨_ | _, _ | _, _ | _, _ | _⟩ <;> decide

theorem takeString_reads {string : StringDef} {rules : Nat} (fits : StringFits string)
    (inRules : string.rule < rules) (rulesFit : rules < UInt32.size) :
    Reads (takeString rules) (writeString string) string := by
  intro rest
  simp only [takeString, writeString, List.append_assoc, byte,
    takeText_reads .stringIdentifier fits.identifier _,
    takeWord_reads .stringRule (Nat.lt_trans inRules rulesFit) _,
    takeNumber_reads .stringModifiers (bits_lt string.modifiers) _, bind, Except.bind,
    takePattern_reads string.identifier fits.pattern _, Modifiers.ofBits?_bits,
    Nat.not_le.mpr inRules, if_false]

/-! ## External variables -/

def ValueFits : ExternalValue → Prop
  | .string bytes _ => bytes.length < UInt32.size
  | _ => True

instance : (value : ExternalValue) → Decidable (ValueFits value)
  | .string _ _ => inferInstanceAs (Decidable (_ < _))
  | .integer _ => isTrue trivial
  | .boolean _ => isTrue trivial
  | .float _ => isTrue trivial

theorem takeValue_reads {value : ExternalValue} (fits : ValueFits value) :
    Reads takeValue (writeValue value) value := by
  intro rest
  have kind {number : Nat} (small : number < Nat.pow 256 1) (rest : List UInt8) :
      takeNumber .externalKind 1 (byte number ++ rest) = .ok (number, rest) :=
    takeNumber_reads .externalKind small rest
  cases value with
  | integer value =>
      have number := takeNumber_reads .externalValue (show value.toUInt64.toNat < Nat.pow 256 8 from
        value.toUInt64.toNat_lt)
      simp only [takeValue, writeValue, List.append_assoc, kind (show 0 < _ by decide), bind,
        Except.bind, long, number _, UInt64.ofNat_toNat]
      rfl
  | boolean value => cases value <;> rfl
  | float value =>
      have number := takeNumber_reads .externalValue (show value.bits.toNat < Nat.pow 256 8 from
        value.bits.toNat_lt)
      simp only [takeValue, writeValue, List.append_assoc, kind (show 2 < _ by decide), bind,
        Except.bind, long, number _, UInt64.ofNat_toNat]
  | string bytes owned =>
      have text := takeSized_reads .externalValue fits
      cases owned with
      | false =>
          simp only [takeValue, writeValue, List.append_assoc, kind (show 3 < _ by decide), bind,
            Except.bind, text _]
      | true =>
          simp only [takeValue, writeValue, List.append_assoc, kind (show 4 < _ by decide), bind,
            Except.bind, text _]

theorem takeExternal_reads {external : External} (identifier : TextFits external.identifier)
    (value : ValueFits external.value) :
    Reads takeExternal (writeExternal external) external := by
  intro rest
  simp only [takeExternal, writeExternal, List.append_assoc,
    takeText_reads .externalIdentifier identifier _, takeValue_reads value _, bind, Except.bind]

/-- How an external variable may stand in a file: as it is written, or, where it is true, with any
byte but zero for its value. -/
inductive StoredAs : External → List UInt8 → Prop where
  | written (external : External) : StoredAs external (writeExternal external)
  | truth (identifier : String) (byte : UInt8) (isTrue : byte ≠ 0) :
    StoredAs ⟨identifier, .boolean true⟩ (sizedText identifier ++ [1, byte])

theorem StoredAs.length_eq {external : External} {record : List UInt8}
    (stored : StoredAs external record) : record.length = (writeExternal external).length := by
  cases stored with
  | written => rfl
  | truth identifier byte isTrue =>
      rw [writeExternal, List.length_append, List.length_append]
      rfl

theorem StoredAs.reads {external : External} {record : List UInt8}
    (stored : StoredAs external record) (identifier : TextFits external.identifier)
    (value : ValueFits external.value) : Reads takeExternal record external := by
  cases stored with
  | written => exact takeExternal_reads identifier value
  | truth name byte isTrue =>
      intro rest
      have read : LittleEndian.value [byte] = byte.toNat := Nat.add_zero _
      have holds : byte.toNat ≠ 0 := fun none => isTrue (UInt8.toNat_inj.mp none)
      have taken : takeValue ([1, byte] ++ rest) =
          .ok (.boolean (LittleEndian.value [byte] ≠ 0), rest) := rfl
      rw [read, decide_eq_true holds] at taken
      simp only [takeExternal, List.append_assoc, takeText_reads .externalIdentifier identifier _,
        taken, bind, Except.bind]

/-! ## Tables -/

theorem takeCell_reads (cell : Cell) : Reads takeCell (writeCell cell) cell := by
  intro rest
  have taken : takeBytes .cells 8 (writeCell cell ++ rest) = .ok (writeCell cell, rest) := by
    have taken := takeBytes_append .cells (writeCell cell) rest
    rwa [writeCell, List.length_append, length_word, length_word] at taken
  have label : LittleEndian.value (word cell.label.toNat) = cell.label.toNat :=
    LittleEndian.value_encode_of_lt cell.label.toNat_lt
  have next : LittleEndian.value (word cell.next.toNat) = cell.next.toNat :=
    LittleEndian.value_encode_of_lt cell.next.toNat_lt
  have first : (writeCell cell).take 4 = word cell.label.toNat :=
    List.take_left' (length_word _)
  have second : (writeCell cell).drop 4 = word cell.next.toNat :=
    List.drop_left' (length_word _)
  simp only [takeCell, taken, first, second, label, next, bind, Except.bind, UInt32.ofNat_toNat]

theorem takeCandidate_reads {candidate : Candidate} (string : candidate.string < UInt32.size)
    (next : ∀ index, candidate.next = some index → index + 1 < UInt32.size) :
    Reads takeCandidate (writeCandidate candidate) candidate := by
  intro rest
  have backtrack := takeNumber_reads .candidates
    (show candidate.backtrack.toNat < Nat.pow 256 2 from candidate.backtrack.toNat_lt)
  simp only [takeCandidate, writeCandidate, List.append_assoc, half, backtrack _,
    takeWord_reads .candidates string _, takeOptional_reads .candidates next _, bind, Except.bind,
    UInt16.ofNat_toNat]

/-! ## The start of a file -/

theorem takeMagic_reads : Reads takeMagic (magic ++ word version) () := fun _ => rfl

theorem takeHeader_reads (header : Header)
    (fits : ∀ number ∈ [header.codeStart, header.spaces, header.rules, header.strings,
      header.externals, header.states, header.candidates, header.cells, header.code],
      number < UInt32.size) :
    Reads takeHeader
      ([header.codeStart, header.spaces, header.rules, header.strings, header.externals,
        header.states, header.candidates, header.cells, header.code].flatMap word) header := by
  intro rest
  simp only [List.forall_mem_cons] at fits
  obtain ⟨codeStart, spaces, rules, strings, externals, states, candidates, cells, code, _⟩ := fits
  simp only [takeHeader, List.flatMap_cons, List.flatMap_nil, List.append_assoc, List.nil_append,
    takeWord_reads .header codeStart _, takeWord_reads .header spaces _,
    takeWord_reads .header rules _, takeWord_reads .header strings _,
    takeWord_reads .header externals _, takeWord_reads .header states _,
    takeWord_reads .header candidates _, takeWord_reads .header cells _,
    takeWord_reads .header code _, bind, Except.bind]

end ByteScan.RuleFile
