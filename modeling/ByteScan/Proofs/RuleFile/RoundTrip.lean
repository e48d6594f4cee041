import ByteScan.Proofs.Automaton.Passing
import ByteScan.Proofs.RuleFile.Records
import ByteScan.Proofs.RuleSet.Consistency

/-!
# Saving and loading lose nothing

A rule set whose numbers mean something and whose counts and lengths fit in words is read back from
the file that is written for it: `read_write`. Compiled rule sets are of this kind, and giving
external variables other values keeps them so.
-/

namespace ByteScan

/-- All counts, lengths and sizes of tables in a rule set fit in words. -/
structure RuleSet.FitsFile (rules : RuleSet) : Prop where
  counts : ∀ count ∈ [rules.spaces.size, rules.rules.size, rules.strings.size,
    rules.externals.length, rules.automaton.candidates.size, rules.automaton.cells.size,
    rules.code.length], count < UInt32.size - 1
  eachSpace : ∀ space ∈ rules.spaces, RuleFile.TextFits space
  eachRule : ∀ rule ∈ rules.rules, RuleFile.RuleFits rule
  eachString : ∀ string ∈ rules.strings, RuleFile.StringFits string
  eachExternal : ∀ external ∈ rules.externals,
    RuleFile.TextFits external.identifier ∧ RuleFile.ValueFits external.value

/-- All numbers in the file of a rule set fit in their words. -/
structure RuleSet.Storable (rules : RuleSet) : Prop where
  counts : ∀ count ∈ RuleFile.counts rules, count < UInt32.size
  eachSpace : ∀ space ∈ rules.spaces, RuleFile.TextFits space
  eachRule : ∀ rule ∈ rules.rules, RuleFile.RuleFits rule
  eachString : ∀ string ∈ rules.strings, RuleFile.StringFits string
  eachExternal : ∀ external ∈ rules.externals,
    RuleFile.TextFits external.identifier ∧ RuleFile.ValueFits external.value

theorem RuleSet.ext_of_parts {first second : RuleSet} (spaces : first.spaces = second.spaces)
    (rules : first.rules = second.rules) (strings : first.strings = second.strings)
    (externals : first.externals = second.externals)
    (automaton : first.automaton = second.automaton) (code : first.code = second.code)
    (codeStart : first.codeStart = second.codeStart) : first = second := by
  obtain ⟨_, _, _, _, _, _, _, _, rfl⟩ := first
  obtain ⟨_, _, _, _, _, _, _, _, rfl⟩ := second
  cases spaces
  cases rules
  cases strings
  cases externals
  cases automaton
  cases code
  cases codeStart
  rfl

namespace RuleFile

variable {rules : RuleSet}

/-! ## Reading back a file -/

theorem stateCount_le (automaton : Automaton) :
    automaton.stateCount ≤ automaton.cells.size + 1 := by
  have few := List.countP_le_length (p := fun entry : Cell × Nat =>
    Automaton.isTransition entry.2 entry.1) (l := automaton.cells.toList.zipIdx)
  rw [List.length_zipIdx, Array.length_toList] at few
  rw [Automaton.stateCount]
  omega

theorem length_optional (index : Option Nat) : (optional index).length = 4 := by
  cases index with
  | none => exact length_word 0
  | some index => exact length_word (index + 1)

theorem length_writeRule (rule : Rule) : 17 ≤ (writeRule rule).length := by
  have identifier := length_sizedText rule.identifier
  simp only [writeRule, counted, List.length_append, length_word, byte, LittleEndian.length_encode]
  omega

theorem length_writePattern (pattern : Pattern caseless) : 1 ≤ (writePattern pattern).length := by
  cases pattern <;>
    simp only [writePattern, byte, List.length_append, LittleEndian.length_encode] <;> omega

theorem length_writeString (string : StringDef) : 10 ≤ (writeString string).length := by
  have identifier := length_sizedText string.identifier
  have pattern := length_writePattern string.pattern
  simp only [writeString, List.length_append, length_word, byte, LittleEndian.length_encode]
  omega

theorem length_writeValue (value : ExternalValue) : 1 ≤ (writeValue value).length := by
  rw [writeValue.eq_def]
  split <;> simp only [byte, List.length_append, LittleEndian.length_encode] <;> omega

theorem length_writeExternal (external : External) : 5 ≤ (writeExternal external).length := by
  have identifier := length_sizedText external.identifier
  have value := length_writeValue external.value
  rw [writeExternal, List.length_append]
  omega

theorem length_writeCell (cell : Cell) : (writeCell cell).length = 8 := by
  rw [writeCell, List.length_append, length_word, length_word]

theorem length_writeCandidate (candidate : Candidate) : (writeCandidate candidate).length = 10 := by
  rw [writeCandidate, List.length_append, List.length_append, half, LittleEndian.length_encode,
    length_word, length_optional]

theorem takeExternals_reads {externals : List External} {stored : List (List UInt8)}
    (each : List.Forall₂ StoredAs externals stored)
    (fits : ∀ external ∈ externals, TextFits external.identifier ∧ ValueFits external.value) :
    Reads (takeItems .externals 5 externals.length takeExternal) stored.flatten
      externals.toArray := by
  have reads : List.Forall₂ (Reads takeExternal) stored externals.toArray.toList := by
    induction each with
    | nil => exact .nil
    | cons isStored _ ih =>
        obtain ⟨⟨identifier, value⟩, others⟩ := List.forall_mem_cons.mp fits
        exact .cons (isStored.reads identifier value) (ih others)
  have long (record : List UInt8) (member : record ∈ stored) : 5 ≤ record.length := by
    obtain ⟨place, within, rfl⟩ := List.getElem_of_mem member
    have isStored := (List.forall₂_iff_get.mp each).2 place (each.length_eq ▸ within) within
    have length := isStored.length_eq
    rw [List.get_eq_getElem, List.get_eq_getElem] at length
    exact length ▸ length_writeExternal _
  exact takeItems_flatten .externals 5 reads long

section

variable {tables : Tables}

/-- With every cell comes the head of a list. -/
theorem takeCells_reads (sizes : tables.heads.size = tables.cells.size) (rest : List UInt8) :
    takeItems .cells 12 tables.cells.size takeCell
        (tables.cells.toList.flatMap writeCell ++ (tables.heads.toList.flatMap optional ++ rest)) =
      .ok (tables.cells, tables.heads.toList.flatMap optional ++ rest) := by
  have cellBytes := le_length_flatMap fun cell (_ : cell ∈ tables.cells.toList) =>
    Nat.le_of_eq (length_writeCell cell).symm
  have headBytes := le_length_flatMap fun head (_ : head ∈ tables.heads.toList) =>
    Nat.le_of_eq (length_optional head).symm
  rw [Array.length_toList] at cellBytes headBytes
  have enough : tables.cells.size * 12 ≤
      (tables.cells.toList.flatMap writeCell ++
        (tables.heads.toList.flatMap optional ++ rest)).length := by
    rw [List.length_append, List.length_append]
    omega
  have taken := takeMany_flatMap (fun cell (_ : cell ∈ tables.cells.toList) => takeCell_reads cell)
    #[] (tables.heads.toList.flatMap optional ++ rest)
  rw [Array.length_toList] at taken
  simp only [takeItems, checkCount_ok .cells enough, taken, bind, Except.bind, Array.empty_append]

variable {found : Tables.Survey} (passed : tables.Passed found)
include passed

theorem takeHeads_reads (fits : tables.candidates.size < UInt32.size) (rest : List UInt8) :
    takeMany (takeOptional .heads) tables.cells.size #[]
        (tables.heads.toList.flatMap optional ++ rest) = .ok (tables.heads, rest) := by
  have each (head : Option Nat) (member : head ∈ tables.heads.toList) :
      Reads (takeOptional .heads) (optional head) head := by
    apply takeOptional_reads
    intro index same
    have inside := passed.heads index (same ▸ member)
    omega
  have taken := takeMany_flatMap each #[] rest
  rw [Array.length_toList, passed.sizes, Array.empty_append] at taken
  exact taken

theorem takeCandidates_reads (fits : tables.candidates.size < UInt32.size)
    (stringsFit : tables.strings < UInt32.size) :
    Reads (takeItems .candidates 10 tables.candidates.size takeCandidate)
      (tables.candidates.toList.flatMap writeCandidate) tables.candidates := by
  refine takeItems_reads .candidates 10 ?_ fun candidate _ =>
    Nat.le_of_eq (length_writeCandidate candidate).symm
  intro candidate member
  have listed : candidate ∈ tables.candidates.toList := Array.mem_toList_iff.mpr member
  apply takeCandidate_reads
  · exact Nat.lt_trans (passed.strings candidate listed) stringsFit
  · intro next isNext
    obtain ⟨place, found⟩ := List.getElem?_of_mem listed
    have within := (List.getElem?_eq_some_iff.mp found).1
    have earlier := passed.back place candidate found next isNext
    rw [Array.length_toList] at within
    omega

end

/-- A file of a rule set with its external variables stored in some way. -/
def fileWith (rules : RuleSet) (stored : List (List UInt8)) : List UInt8 :=
  magic ++ word version ++ (counts rules).flatMap word ++
    rules.spaces.toList.flatMap sizedText ++ rules.rules.toList.flatMap writeRule ++
    rules.strings.toList.flatMap writeString ++ stored.flatten ++
    rules.automaton.cells.toList.flatMap writeCell ++
    rules.automaton.heads.toList.flatMap optional ++
    rules.automaton.candidates.toList.flatMap writeCandidate ++ rules.code

theorem write_eq (rules : RuleSet) : write rules = fileWith rules (rules.externals.map writeExternal) :=
  rfl

/-- A rule set is read from a file of it, however its external variables are stored. -/
theorem read_fileWith (consistent : rules.Consistent) (storable : rules.Storable)
    {stored : List (List UInt8)} (each : List.Forall₂ StoredAs rules.externals stored) :
    read (fileWith rules stored) = .ok rules := by
  obtain ⟨found, passed⟩ := Tables.exists_passed rules.automaton.checked
  have fits := storable.counts
  simp only [counts, List.forall_mem_cons] at fits
  obtain ⟨_, spacesFit, rulesFit, stringsFit, _, _, candidatesFit, _⟩ := fits
  have header := takeHeader_reads ⟨rules.codeStart, rules.spaces.size, rules.rules.size,
    rules.strings.size, rules.externals.length, rules.automaton.stateCount,
    rules.automaton.candidates.size, rules.automaton.cells.size, rules.code.length⟩ storable.counts
  have spaces := takeItems_reads .spaces 4
    (fun space member => takeText_reads .spaceName (storable.eachSpace space member))
    (fun space _ => length_sizedText space)
  have ruleReads := takeItems_reads .rules 17
    (fun rule member => takeRule_reads (storable.eachRule rule member)
      (consistent.inSpaces rule member) spacesFit (consistent.inStrings rule member) stringsFit)
    (fun rule _ => length_writeRule rule)
  have strings := takeItems_reads .strings 10
    (fun string member => takeString_reads (storable.eachString string member)
      (consistent.inRules string member) rulesFit)
    (fun string _ => length_writeString string)
  have externals := takeExternals_reads each storable.eachExternal
  have cells := takeCells_reads passed.sizes
  have heads := takeHeads_reads passed candidatesFit
  have candidates := takeCandidates_reads passed candidatesFit (consistent.tables ▸ stringsFit)
  have code := takeBytes_append .code rules.code []
  rw [List.append_nil] at code
  have opened : Automaton.ofTables ⟨rules.automaton.cells, rules.automaton.heads,
      rules.automaton.candidates, rules.strings.size⟩ = .ok rules.automaton := by
    rw [← consistent.tables]
    exact Automaton.ofTables_eq_ok rules.automaton.checked
  have magic := takeMagic_reads
  unfold Reads at magic header
  rw [fileWith, read]
  simp only [List.append_assoc] at magic ⊢
  rw [magic]
  simp only [bind, Except.bind]
  rw [RuleFile.counts, header]
  simp only [spaces _, ruleReads _, strings _, externals _, cells, heads, candidates _, code,
    List.isEmpty_nil, Bool.not_true, Bool.false_eq_true, if_false, Nat.not_le.mpr consistent.start,
    opened, ne_eq, not_true_eq_false]
  exact congrArg _ (RuleSet.ext_of_parts rfl rfl rfl rfl rfl rfl rfl)

theorem read_write (consistent : rules.Consistent) (storable : rules.Storable) :
    read (write rules) = .ok rules := by
  rw [write_eq]
  apply read_fileWith consistent storable
  rw [List.forall₂_map_right_iff, List.forall₂_same]
  exact fun external _ => .written external

/-- A state count is at most one more than the number of cells. -/
theorem storable (consistent : rules.Consistent) (fits : rules.FitsFile) : rules.Storable := by
  have few := fits.counts
  have start := consistent.start
  have states := stateCount_le rules.automaton
  simp only [List.forall_mem_cons] at few
  obtain ⟨spacesFit, rulesFit, stringsFit, externalsFit, candidatesFit, cellsFit, codeFit, _⟩ := few
  refine ⟨?_, fits.eachSpace, fits.eachRule, fits.eachString, fits.eachExternal⟩
  simp only [counts, List.forall_mem_cons]
  refine ⟨?_, ?_, ?_, ?_, ?_, ?_, ?_, ?_, ?_, List.forall_mem_nil _⟩ <;> omega

/-- Nothing of a compiled rule set is lost in its file, whatever values its external variables were
given before it was saved. As the same rule set is loaded, all scans of it are the same. -/
theorem read_write_compiled {collection : Collection} {after : RuleSet}
    (compiled : collection.compile = .ok rules) (redefines : rules.Redefines after)
    (fits : after.FitsFile) : read (write after) = .ok after :=
  have consistent := (Collection.consistent compiled).redefine redefines
  read_write consistent (storable consistent fits)

/-- A text that was defined after compiling is still one when it is loaded. -/
theorem read_write_compiled_owned :
    let rule : RuleDecl := ⟨"r", none, true, false, ["t"], [⟨"a", .text "A", { }⟩], .found "a"⟩
    let collection : Collection :=
      { externals := [⟨"limit", .string [0x61] false⟩], rules := [("default", rule)] }
    ∃ rules after, collection.compile = .ok rules ∧
      rules.define "limit" (.string [0x62] true) = .ok after ∧
      after.externals = [⟨"limit", .string [0x62] true⟩] ∧ read (write after) = .ok after := by
  intro rule collection
  let string : StringDef := ⟨"a", 0, { }, .text [0x41]⟩
  let found : Rule := ⟨"r", 0, true, false, [0], ["t"]⟩
  have same : collection.compilation = .ok ⟨#["default"], #[found], #[string],
      [[.found 0, .verdict 0]], ["limit"]⟩ := by with_unfolding_all rfl
  have signs : signsOf [string] = [⟨[0x41], 1, 0⟩] := by with_unfolding_all rfl
  have cells := Automaton.size_cells_le (signsOf [string]) 1
  have candidates := Automaton.size_candidates_le (signsOf [string]) 1
  rw [signs] at cells candidates
  obtain ⟨rules, compiled, gives⟩ := Collection.compile_ok rfl same (by
    change (Automaton.tablesOf (signsOf [string]) 1).cells.size ≤ _
    rw [signs]
    exact cells.trans (by decide))
  have tables : rules.automaton.toTables = Automaton.tablesOf [⟨[0x41], 1, 0⟩] 1 := by
    rw [(Automaton.of_ofSigns gives.built).2, gives.sameStrings]
    change Automaton.tablesOf (signsOf [string]) 1 = _
    rw [signs]
  have defined : rules.define "limit" (.string [0x62] true) =
      .ok (rules.withExternals [⟨"limit", .string [0x62] true⟩]) := by
    rw [RuleSet.define, gives.sameExternals]
    rfl
  refine ⟨rules, _, compiled, defined, rfl, ?_⟩
  refine read_write_compiled compiled (.define .start defined) ⟨?_, ?_, ?_, ?_, ?_⟩
  · simp only [RuleSet.withExternals, gives.sameSpaces, gives.sameRules, gives.sameStrings,
      gives.sameCode, tables, List.forall_mem_cons]
    refine ⟨by decide, by decide, by decide, by decide, ?_, ?_, by decide, List.forall_mem_nil _⟩
    · exact Nat.lt_of_le_of_lt candidates (by decide)
    · exact Nat.lt_of_le_of_lt cells (by decide)
  · intro space member
    rw [RuleSet.withExternals, gives.sameSpaces] at member
    have isSpace : space = "default" := by simpa using member
    rw [isSpace]
    decide
  · intro other member
    rw [RuleSet.withExternals, gives.sameRules] at member
    have isFound : other = found := by simpa using member
    rw [isFound]
    exact ⟨by decide, by decide, by decide, by decide⟩
  · intro other member
    rw [RuleSet.withExternals, gives.sameStrings] at member
    have isString : other = string := by simpa using member
    rw [isString]
    exact ⟨by decide, by decide⟩
  · intro external member
    obtain rfl := List.mem_singleton.mp member
    exact ⟨by decide, by decide⟩

end RuleFile

end ByteScan
