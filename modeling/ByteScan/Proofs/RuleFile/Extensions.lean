import ByteScan.Proofs.Strict.Running

/-!
# What follows a compiled rule file

A reader that takes something off the front of some bytes takes the same off where more bytes follow,
and what it refuses it refuses as corrupt. So a file that is accepted does not go on in another file
that is accepted: both what is cut off from it and what is longer is corrupt, `read_prefixFree`.
-/

namespace ByteScan.RuleFile

/-! ## Longer bytes -/

/-- The outcome of a reader on some bytes and its outcome where `more` follows them: what is taken is
the same, and what is refused is corrupt. -/
def Extended (more : List UInt8) (short long : Except Error (α × List UInt8)) : Prop :=
  match short with
  | .ok (value, rest) => long = .ok (value, rest ++ more)
  | .error error => ∃ corruption, error = .corrupt corruption

/-- A reader does the same whatever follows the bytes that it takes. -/
def Steady (reading : Reading α) : Prop :=
  ∀ bytes more, Extended more (reading bytes) (reading (bytes ++ more))

section

variable {more : List UInt8}

theorem Extended.ok (value : α) (rest : List UInt8) :
    Extended more (.ok (value, rest)) (.ok (value, rest ++ more)) := rfl

theorem Extended.damaged (fault : Fault) (long : Except Error (α × List UInt8)) :
    Extended more (damaged fault) long := ⟨_, rfl⟩

theorem Extended.bind {short long : Except Error (α × List UInt8)}
    {next : α × List UInt8 → Except Error (β × List UInt8)} (first : Extended more short long)
    (second : ∀ value rest, Extended more (next (value, rest)) (next (value, rest ++ more))) :
    Extended more (short >>= next) (long >>= next) := by
  cases short with
  | error error => exact first
  | ok result =>
      cases first
      exact second result.1 result.2

theorem Extended.ite {condition : Prop} [Decidable condition]
    {yes no longYes longNo : Except Error (α × List UInt8)}
    (holds : condition → Extended more yes longYes) (fails : ¬condition → Extended more no longNo) :
    Extended more (if condition then yes else no) (if condition then longYes else longNo) := by
  split
  · exact holds ‹_›
  · exact fails ‹_›

end

/-! ## Bytes, numbers and texts -/

variable (part : Part)

theorem takeBytes_steady (count : Nat) : Steady (takeBytes part count) := by
  intro bytes more
  rw [takeBytes, takeBytes]
  by_cases enough : hasAtLeast count bytes = true
  · have fits := (hasAtLeast_iff count bytes).mp enough
    have still : hasAtLeast count (bytes ++ more) = true := by
      rw [hasAtLeast_iff, List.length_append]
      exact Nat.le_add_right_of_le fits
    rw [if_pos enough, if_pos still, List.take_append_of_le_length fits,
      List.drop_append_of_le_length fits]
    exact .ok _ _
  · rw [if_neg enough]
    exact .damaged _ _

theorem takeNumber_steady (width : Nat) : Steady (takeNumber part width) := fun bytes more =>
  (takeBytes_steady part width bytes more).bind fun digits => .ok (LittleEndian.value digits)

theorem takeOptional_steady : Steady (takeOptional part) := fun bytes more =>
  (takeNumber_steady part 4 bytes more).bind fun _ rest => .ok _ rest

theorem Extended.check {more bytes : List UInt8} (size count : Nat)
    {short long : Unit → Except Error (α × List UInt8)}
    (later : count * size ≤ bytes.length → Extended more (short ()) (long ())) :
    Extended more (checkCount part size count bytes >>= short)
      (checkCount part size count (bytes ++ more) >>= long) := by
  rw [checkCount, checkCount]
  by_cases enough : hasAtLeast (count * size) bytes = true
  · have fits := (hasAtLeast_iff _ bytes).mp enough
    have still : hasAtLeast (count * size) (bytes ++ more) = true := by
      rw [hasAtLeast_iff, List.length_append]
      exact Nat.le_add_right_of_le fits
    rw [if_pos enough, if_pos still]
    exact later fits
  · rw [if_neg enough]
    exact .damaged _ _

theorem takeSized_steady : Steady (takeSized part) := by
  intro bytes more
  simp only [takeSized, takeCount, bind_assoc]
  apply (takeNumber_steady part 4 bytes more).bind
  intro count rest
  apply Extended.check
  intro fits
  rw [Nat.mul_one] at fits
  change Extended more (.ok (rest.take count, rest.drop count))
    (.ok ((rest ++ more).take count, (rest ++ more).drop count))
  rw [List.take_append_of_le_length fits, List.drop_append_of_le_length fits]
  exact .ok _ _

theorem takeText_steady : Steady (takeText part) := by
  intro bytes more
  apply (takeSized_steady part bytes more).bind
  intro encoded rest
  dsimp only
  cases String.fromUTF8? ⟨encoded.toArray⟩ with
  | some text => exact .ok _ _
  | none => exact .damaged _ _

/-! ## Lists of items -/

section

variable {item : Reading α} (steady : Steady item)
include steady

theorem takeMany_steady (count : Nat) (taken : Array α) : Steady (takeMany item count taken) := by
  induction count generalizing taken with
  | zero => exact fun bytes more => .ok taken bytes
  | succ count ih =>
      intro bytes more
      have first := steady bytes more
      rw [takeMany, takeMany]
      cases short : item bytes with
      | error error =>
          rw [short] at first
          exact first
      | ok result =>
          rw [short] at first
          rw [show item (bytes ++ more) = .ok (result.1, result.2 ++ more) from first]
          exact ih (taken.push result.1) result.2 more

theorem takeItems_steady (size count : Nat) : Steady (takeItems part size count item) :=
  fun bytes more => .check part size count fun _ => takeMany_steady steady count #[] bytes more

theorem takeCounted_steady (size : Nat) : Steady (takeCounted part size item) := by
  intro bytes more
  simp only [takeCounted, takeCount, bind_assoc]
  apply (takeNumber_steady part 4 bytes more).bind
  intro count rest
  exact .check part size count fun _ => takeMany_steady steady count #[] rest more

end

/-! ## Records -/

theorem takeStringNumber_steady (rule : String) (strings : Nat) :
    Steady (takeStringNumber rule strings) := by
  intro bytes more
  apply (takeNumber_steady .ruleString 4 bytes more).bind
  intro number rest
  exact .ite (fun _ => .ok number rest) fun _ => .damaged _ _

theorem takeRule_steady (spaces strings : Nat) : Steady (takeRule spaces strings) := by
  intro bytes more
  apply (takeText_steady .ruleIdentifier bytes more).bind
  intro identifier bytes
  apply (takeNumber_steady .ruleSpace 4 bytes more).bind
  intro space bytes
  apply Extended.ite (fun _ => .damaged _ _)
  intro _
  apply (takeNumber_steady .ruleFlags 1 bytes more).bind
  intro flags bytes
  dsimp only
  cases Rule.ofFlagBits? flags with
  | none => exact .damaged _ _
  | some flags =>
      apply (takeCounted_steady .ruleStrings (takeStringNumber_steady identifier strings) 4 bytes
        more).bind
      intro own bytes
      apply (takeCounted_steady .ruleTags (takeText_steady .ruleTag) 4 bytes more).bind
      intro tags bytes
      exact .ok _ bytes

theorem takePattern_steady (identifier : String) (caseless : Bool) :
    Steady (takePattern identifier caseless) := by
  intro bytes more
  apply (takeNumber_steady .stringKind 1 bytes more).bind
  intro kind bytes
  dsimp only
  match kind with
  | 0 => exact (takeSized_steady .textBytes bytes more).bind fun _ rest => .ok _ rest
  | 1 =>
      apply (takeSized_steady .hexBytes bytes more).bind
      intro values bytes
      apply (takeSized_steady .hexMask bytes more).bind
      intro masks bytes
      exact .ite (fun _ => .damaged _ _) fun _ => .ok _ bytes
  | 2 =>
      apply (takeText_steady .regexSource bytes more).bind
      intro source bytes
      dsimp only
      cases Regex.ofSource source caseless with
      | ok regex => exact .ok _ bytes
      | error fault => exact .damaged _ _
  | _ + 3 => exact .damaged _ _

theorem takeString_steady (rules : Nat) : Steady (takeString rules) := by
  intro bytes more
  apply (takeText_steady .stringIdentifier bytes more).bind
  intro identifier bytes
  apply (takeNumber_steady .stringRule 4 bytes more).bind
  intro rule bytes
  apply Extended.ite (fun _ => .damaged _ _)
  intro _
  apply (takeNumber_steady .stringModifiers 1 bytes more).bind
  intro bits bytes
  dsimp only
  cases Modifiers.ofBits? bits with
  | none => exact .damaged _ _
  | some modifiers =>
      exact (takePattern_steady identifier modifiers.nocase bytes more).bind fun _ rest => .ok _ rest

theorem takeValue_steady : Steady takeValue := by
  intro bytes more
  apply (takeNumber_steady .externalKind 1 bytes more).bind
  intro kind bytes
  dsimp only
  match kind with
  | 0 => exact (takeNumber_steady .externalValue 8 bytes more).bind fun _ rest => .ok _ rest
  | 1 => exact (takeNumber_steady .externalValue 1 bytes more).bind fun _ rest => .ok _ rest
  | 2 => exact (takeNumber_steady .externalValue 8 bytes more).bind fun _ rest => .ok _ rest
  | 3 => exact (takeSized_steady .externalValue bytes more).bind fun _ rest => .ok _ rest
  | 4 => exact (takeSized_steady .externalValue bytes more).bind fun _ rest => .ok _ rest
  | _ + 5 => exact .damaged _ _

theorem takeExternal_steady : Steady takeExternal := by
  intro bytes more
  apply (takeText_steady .externalIdentifier bytes more).bind
  intro identifier bytes
  exact (takeValue_steady bytes more).bind fun _ rest => .ok _ rest

theorem takeCell_steady : Steady takeCell := fun bytes more =>
  (takeBytes_steady .cells 8 bytes more).bind fun _ rest => .ok _ rest

theorem takeCandidate_steady : Steady takeCandidate := by
  intro bytes more
  apply (takeNumber_steady .candidates 2 bytes more).bind
  intro backtrack bytes
  apply (takeNumber_steady .candidates 4 bytes more).bind
  intro string bytes
  exact (takeOptional_steady .candidates bytes more).bind fun _ rest => .ok _ rest

theorem takeHeader_steady : Steady takeHeader := by
  intro bytes more
  iterate 9
    apply (takeNumber_steady .header 4 _ more).bind
    intro _ bytes
  exact .ok _ bytes

/-! ## Files -/

/-- What stands in a file after its first eight bytes. -/
structure Sections where
  header : Header
  spaces : Array String
  rules : Array Rule
  strings : Array StringDef
  externals : Array External
  cells : Array Cell
  heads : Array (Option Nat)
  candidates : Array Candidate
  code : List UInt8

def takeSections : Reading Sections := fun bytes => do
  let (header, bytes) ← takeHeader bytes
  let (spaces, bytes) ← takeItems .spaces 4 header.spaces (takeText .spaceName) bytes
  let (rules, bytes) ←
    takeItems .rules 17 header.rules (takeRule spaces.size header.strings) bytes
  let (strings, bytes) ← takeItems .strings 10 header.strings (takeString rules.size) bytes
  let (externals, bytes) ← takeItems .externals 5 header.externals takeExternal bytes
  let (cells, bytes) ← takeItems .cells 12 header.cells takeCell bytes
  let (heads, bytes) ← takeMany (takeOptional .heads) header.cells #[] bytes
  let (candidates, bytes) ← takeItems .candidates 10 header.candidates takeCandidate bytes
  let (code, bytes) ← takeBytes .code header.code bytes
  .ok (⟨header, spaces, rules, strings, externals, cells, heads, candidates, code⟩, bytes)

def assemble (sections : Sections) (rest : List UInt8) : Except Error RuleSet :=
  if !rest.isEmpty then damaged .trailingData
  else if sections.header.code ≤ sections.header.codeStart then damaged .codeStart
  else
    match Automaton.ofTables
      ⟨sections.cells, sections.heads, sections.candidates, sections.strings.size⟩ with
    | .error fault => .error (.corrupt (.tables fault))
    | .ok automaton =>
      if automaton.stateCount ≠ sections.header.states then damaged .stateCount
      else
        .ok {
          spaces := sections.spaces, rules := sections.rules, strings := sections.strings,
          externals := sections.externals.toList, automaton, code := sections.code,
          codeStart := sections.header.codeStart }

theorem read_eq (bytes : List UInt8) :
    read bytes = takeMagic bytes >>= fun started =>
      takeSections started.2 >>= fun taken => assemble taken.1 taken.2 := by
  simp only [takeSections, bind_assoc]
  rfl

/-- What stands in a file is refused only as corrupt. -/
theorem assemble_corrupt {sections : Sections} {rest : List UInt8} {error : Error}
    (refused : assemble sections rest = .error error) : ∃ corruption, error = .corrupt corruption := by
  rw [assemble] at refused
  split at refused
  · exact ⟨_, (Except.error.inj refused).symm⟩
  · split at refused
    · exact ⟨_, (Except.error.inj refused).symm⟩
    · split at refused
      · exact ⟨_, (Except.error.inj refused).symm⟩
      · split at refused
        · exact ⟨_, (Except.error.inj refused).symm⟩
        · cases refused

theorem takeSections_steady : Steady takeSections := by
  intro bytes more
  apply (takeHeader_steady bytes more).bind
  intro header bytes
  apply (takeItems_steady .spaces (takeText_steady .spaceName) 4 header.spaces bytes more).bind
  intro spaces bytes
  apply (takeItems_steady .rules (takeRule_steady spaces.size header.strings) 17 header.rules bytes
    more).bind
  intro rules bytes
  apply (takeItems_steady .strings (takeString_steady rules.size) 10 header.strings bytes more).bind
  intro strings bytes
  apply (takeItems_steady .externals takeExternal_steady 5 header.externals bytes more).bind
  intro externals bytes
  apply (takeItems_steady .cells takeCell_steady 12 header.cells bytes more).bind
  intro cells bytes
  apply (takeMany_steady (takeOptional_steady .heads) header.cells #[] bytes more).bind
  intro heads bytes
  apply (takeItems_steady .candidates takeCandidate_steady 10 header.candidates bytes more).bind
  intro candidates bytes
  exact (takeBytes_steady .code header.code bytes more).bind fun _ rest => .ok _ rest

/-- The version of a file is known from its first eight bytes. -/
theorem takeMagic_steady_or (bytes more : List UInt8) :
    Extended more (takeMagic bytes) (takeMagic (bytes ++ more)) ∨
      (takeMagic bytes = .error .unsupportedVersion ∧
        takeMagic (bytes ++ more) = .error .unsupportedVersion) := by
  by_cases enough : hasAtLeast 8 bytes = true
  · have fits := (hasAtLeast_iff 8 bytes).mp enough
    have still : hasAtLeast 8 (bytes ++ more) = true := by
      rw [hasAtLeast_iff, List.length_append]
      exact Nat.le_add_right_of_le fits
    have letters : (bytes ++ more).take 4 = bytes.take 4 :=
      List.take_append_of_le_length (by omega)
    have number : ((bytes ++ more).drop 4).take 4 = (bytes.drop 4).take 4 := by
      rw [List.drop_append_of_le_length (by omega), List.take_append_of_le_length]
      rw [List.length_drop]
      omega
    rw [takeMagic, takeMagic, enough, still, letters, number]
    by_cases other : bytes.take 4 ≠ magic
    · exact .inr ⟨if_pos other, if_pos other⟩
    by_cases unknown : LittleEndian.value ((bytes.drop 4).take 4) ≠ version
    · right
      constructor
      · exact (if_neg other).trans (if_pos unknown)
      · exact (if_neg other).trans (if_pos unknown)
    · left
      have rest : (bytes ++ more).drop 8 = bytes.drop 8 ++ more := List.drop_append_of_le_length fits
      rw [if_neg other, if_neg other, if_neg unknown, if_neg unknown, rest]
      exact .ok () _
  · left
    rw [takeMagic, if_pos (by rw [Bool.not_eq_true] at enough; rw [enough]; rfl)]
    exact .damaged _ _

variable {bytes : List UInt8} {rules : RuleSet}

/-- In the file of a version that is known, the same sections are taken whatever follows them. -/
theorem extended_sections (more : List UInt8)
    (known : takeMagic bytes ≠ .error .unsupportedVersion) :
    Extended more (takeMagic bytes >>= fun started => takeSections started.2)
      (takeMagic (bytes ++ more) >>= fun started => takeSections started.2) := by
  rcases takeMagic_steady_or bytes more with same | ⟨unsupported, _⟩
  · exact same.bind fun _ rest => takeSections_steady rest more
  · exact absurd unsupported known

/-- Nothing may follow a file that is accepted. -/
theorem read_append {more : List UInt8} (accepted : read bytes = .ok rules) (present : more ≠ []) :
    read (bytes ++ more) = damaged .trailingData := by
  rw [read_eq, ← bind_assoc] at accepted ⊢
  obtain ⟨⟨sections, rest⟩, taken, assembled⟩ := bind_eq_ok accepted
  have known : takeMagic bytes ≠ .error .unsupportedVersion := by
    intro unsupported
    rw [unsupported] at taken
    cases taken
  have extended := extended_sections more known
  rw [taken] at extended
  rw [show _ = Except.ok (sections, rest ++ more) from extended]
  have follows : (!(rest ++ more).isEmpty) = true := by
    rw [Bool.not_eq_true', List.isEmpty_eq_false_iff]
    exact List.append_ne_nil_of_right_ne_nil rest present
  exact if_pos follows

theorem read_cut {more : List UInt8} (accepted : read (bytes ++ more) = .ok rules)
    (present : more ≠ []) :
    ∃ corruption, read bytes = .error (.corrupt corruption) := by
  cases cut : read bytes with
  | ok other =>
      rw [read_append cut present] at accepted
      cases accepted
  | error error =>
      have known : takeMagic bytes ≠ .error .unsupportedVersion := by
        intro unsupported
        rcases takeMagic_steady_or bytes more with same | ⟨_, still⟩
        · rw [unsupported] at same
          obtain ⟨_, isCorrupt⟩ := same
          cases isCorrupt
        · rw [read_eq, still] at accepted
          cases accepted
      rw [read_eq, ← bind_assoc] at cut
      have extended := extended_sections more known
      cases taken : takeMagic bytes >>= fun started => takeSections started.2 with
      | error fault =>
          rw [taken] at cut extended
          obtain ⟨corruption, rfl⟩ := extended
          cases cut
          exact ⟨corruption, rfl⟩
      | ok result =>
          rw [taken] at cut
          obtain ⟨corruption, rfl⟩ := assemble_corrupt cut
          exact ⟨corruption, rfl⟩

/-- Files that are accepted are prefix-free: what is cut off from one, and what is longer than one, is
refused as corrupt, and is read without reaching beyond it. -/
theorem read_prefixFree (accepted : read bytes = .ok rules) (other : List UInt8)
    (differs : other ≠ bytes) (related : other <+: bytes ∨ bytes <+: other) :
    ∃ corruption, read other = .error (.corrupt corruption) ∧
      Strict.read other = some (.error (.corrupt corruption)) := by
  have strict := (Strict.read_ran other).1
  have refused : ∃ corruption, read other = .error (.corrupt corruption) := by
    rcases related with ⟨more, rfl⟩ | ⟨more, rfl⟩
    · apply read_cut accepted
      rintro rfl
      exact differs (List.append_nil other).symm
    · refine ⟨_, read_append accepted ?_⟩
      rintro rfl
      exact differs (List.append_nil bytes)
  obtain ⟨corruption, same⟩ := refused
  exact ⟨corruption, same, strict.trans (congrArg some same)⟩

/-- A file of code alone is accepted; without its bytes and with one more it is corrupt. -/
theorem read_prefixFree_code :
    ∃ bytes rules, read bytes = .ok rules ∧ ([] ≠ bytes ∧ [] <+: bytes) ∧
      bytes ++ [0] ≠ bytes ∧ bytes <+: bytes ++ [0] ∧
      (∃ corruption, read [] = .error (.corrupt corruption)) ∧
      ∃ corruption, read (bytes ++ [0]) = .error (.corrupt corruption) := by
  have loading : ∃ automaton, automaton.strings = 0 ∧
      read (write (Scan.ofCode automaton [0])) = .ok (Scan.ofCode automaton [0]) :=
    Scan.exists_read_ofCode (by decide) (by decide)
  obtain ⟨automaton, _, accepted⟩ := loading
  have present : [] ≠ write (Scan.ofCode automaton [0]) := nofun
  have longer : write (Scan.ofCode automaton [0]) ++ [0] ≠ write (Scan.ofCode automaton [0]) := by
    intro same
    have lengths := congrArg List.length same
    rw [List.length_append, List.length_singleton] at lengths
    omega
  obtain ⟨first, cut, _⟩ := read_prefixFree accepted [] present (.inl (List.nil_prefix))
  obtain ⟨second, extended, _⟩ :=
    read_prefixFree accepted _ longer (.inr (List.prefix_append _ [0]))
  exact ⟨_, _, accepted, ⟨present, List.nil_prefix⟩, longer, List.prefix_append _ [0],
    ⟨first, cut⟩, ⟨second, extended⟩⟩

end ByteScan.RuleFile
