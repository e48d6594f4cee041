import ByteScan.Proofs.Strict.Results
import ByteScan.RuleFile.Reader

/-!
# Reading without reaching beyond

The strict forms of the readers of compiled rule files have no result where they would take more than
there is. On all bytes they do what the readers do: each `Follows` its reader.
-/

namespace ByteScan

def Error.IsRefusal : Error → Prop
  | .corrupt _ | .unsupportedVersion => True
  | _ => False

namespace Strict

open RuleFile (Part Fault)

abbrev Taking (α : Type) := StateT (List UInt8) (ExceptT Error Option) α

/-! ## The readers -/

def refuse (fault : Fault) : Taking α := fun _ => some (RuleFile.damaged fault)

/-- Splits off the front of the bytes, which have to be enough. -/
def split (count : Nat) : Taking (List UInt8) := fun bytes =>
  if count ≤ bytes.length then some (.ok (bytes.take count, bytes.drop count)) else none

def need (part : Part) (count : Nat) : Taking Unit := fun bytes =>
  some (if hasAtLeast count bytes then .ok ((), bytes) else RuleFile.damaged (.truncated part))

def takeBytes (part : Part) (count : Nat) : Taking (List UInt8) := do
  need part count
  split count

def takeNumber (part : Part) (width : Nat) : Taking Nat := do
  let digits ← takeBytes part width
  pure (LittleEndian.value digits)

def takeOptional (part : Part) : Taking (Option Nat) := do
  let number ← takeNumber part 4
  pure (if number = 0 then none else some (number - 1))

def checkCount (part : Part) (size count : Nat) : Taking Unit := fun bytes =>
  some (if hasAtLeast (count * size) bytes then .ok ((), bytes)
    else RuleFile.damaged (.countExceeds part count))

def takeCount (part : Part) (size : Nat) : Taking Nat := do
  let count ← takeNumber part 4
  checkCount part size count
  pure count

def takeSized (part : Part) : Taking (List UInt8) := do
  let count ← takeCount part 1
  split count

def takeText (part : Part) : Taking String := do
  let encoded ← takeSized part
  match String.fromUTF8? ⟨encoded.toArray⟩ with
  | some text => pure text
  | none => refuse (.notUtf8 part)

def takeMany (item : Taking α) : Nat → Array α → Taking (Array α)
  | 0, taken => pure taken
  | count + 1, taken => do
    let next ← item
    takeMany item count (taken.push next)

def takeItems (part : Part) (size count : Nat) (item : Taking α) : Taking (Array α) := do
  checkCount part size count
  takeMany item count #[]

def takeCounted (part : Part) (size : Nat) (item : Taking α) : Taking (Array α) := do
  let count ← takeCount part size
  takeMany item count #[]

def takeStringNumber (rule : String) (strings : Nat) : Taking Nat := do
  let number ← takeNumber .ruleString 4
  if number < strings then pure number else refuse (.unknownString rule)

def takeRule (spaces strings : Nat) : Taking Rule := do
  let identifier ← takeText .ruleIdentifier
  let space ← takeNumber .ruleSpace 4
  if spaces ≤ space then refuse (.unknownSpace identifier)
  else do
    let flags ← takeNumber .ruleFlags 1
    match Rule.ofFlagBits? flags with
    | none => refuse (.unknownFlags identifier)
    | some (isPrivate, isGlobal) => do
      let own ← takeCounted .ruleStrings 4 (takeStringNumber identifier strings)
      let tags ← takeCounted .ruleTags 4 (takeText .ruleTag)
      pure ⟨identifier, space, isPrivate, isGlobal, own.toList, tags.toList⟩

def takePattern (identifier : String) (caseless : Bool) : Taking (Pattern caseless) := do
  let kind ← takeNumber .stringKind 1
  match kind with
  | 0 => do
    let text ← takeSized .textBytes
    pure (.text text)
  | 1 => do
    let values ← takeSized .hexBytes
    let masks ← takeSized .hexMask
    if values.length ≠ masks.length then refuse (.mismatchedMask identifier)
    else pure (.hex (values.zipWith MaskedByte.mk masks))
  | 2 => do
    let source ← takeText .regexSource
    match Regex.ofSource source caseless with
    | .ok regex => pure (.regex regex)
    | .error fault => refuse (.invalidRegex identifier fault)
  | _ => refuse (.unknownStringKind (UInt8.ofNat kind))

def takeString (rules : Nat) : Taking StringDef := do
  let identifier ← takeText .stringIdentifier
  let rule ← takeNumber .stringRule 4
  if rules ≤ rule then refuse (.unknownRule identifier)
  else do
    let bits ← takeNumber .stringModifiers 1
    match Modifiers.ofBits? bits with
    | none => refuse (.unknownModifiers identifier)
    | some modifiers => do
      let pattern ← takePattern identifier modifiers.nocase
      pure ⟨identifier, rule, modifiers, pattern⟩

def takeValue : Taking ExternalValue := do
  let kind ← takeNumber .externalKind 1
  match kind with
  | 0 => do
    let value ← takeNumber .externalValue 8
    pure (.integer (UInt64.ofNat value).toInt64)
  | 1 => do
    let value ← takeNumber .externalValue 1
    pure (.boolean (value ≠ 0))
  | 2 => do
    let value ← takeNumber .externalValue 8
    pure (.float ⟨UInt64.ofNat value⟩)
  | 3 => do
    let value ← takeSized .externalValue
    pure (.string value false)
  | 4 => do
    let value ← takeSized .externalValue
    pure (.string value true)
  | _ => refuse (.unknownExternalKind (UInt8.ofNat kind))

def takeExternal : Taking External := do
  let identifier ← takeText .externalIdentifier
  let value ← takeValue
  pure ⟨identifier, value⟩

def takeCell : Taking Cell := do
  let cell ← takeBytes .cells 8
  let label := LittleEndian.value (cell.take 4)
  let next := LittleEndian.value (cell.drop 4)
  pure ⟨UInt32.ofNat next, UInt32.ofNat label⟩

def takeCandidate : Taking Candidate := do
  let backtrack ← takeNumber .candidates 2
  let string ← takeNumber .candidates 4
  let next ← takeOptional .candidates
  pure ⟨UInt16.ofNat backtrack, string, next⟩

def takeHeader : Taking RuleFile.Header := do
  let codeStart ← takeNumber .header 4
  let spaces ← takeNumber .header 4
  let rules ← takeNumber .header 4
  let strings ← takeNumber .header 4
  let externals ← takeNumber .header 4
  let states ← takeNumber .header 4
  let candidates ← takeNumber .header 4
  let cells ← takeNumber .header 4
  let code ← takeNumber .header 4
  pure ⟨codeStart, spaces, rules, strings, externals, states, candidates, cells, code⟩

def takeMagic : Taking Unit := do
  need .header 8
  let letters ← split 4
  if letters ≠ RuleFile.magic then throw .unsupportedVersion
  else do
    let number ← takeNumber .header 4
    if number ≠ RuleFile.version then throw .unsupportedVersion
    else pure ()

/-! ## What a strict reader does -/

/-- On all bytes a strict reader does what the other reader does, and what it takes is good. -/
def Follows (strict : Taking α) (plain : RuleFile.Reading α) (good : α → Prop) : Prop :=
  ∀ bytes, Ran Error.IsRefusal (strict bytes) (plain bytes) fun result => good result.1

theorem Ran.refuse {good : α × List UInt8 → Prop} {bytes : List UInt8} (fault : Fault) :
    Ran Error.IsRefusal ((Strict.refuse fault : Taking α) bytes) (RuleFile.damaged fault) good :=
  ⟨rfl, trivial⟩

/-! ## Bytes, numbers and texts -/

theorem split_eq {count : Nat} {bytes : List UInt8} (enough : count ≤ bytes.length) :
    split count bytes = some (.ok (bytes.take count, bytes.drop count)) := if_pos enough

section

variable (part : Part)

theorem takeBytes_follows (count : Nat) :
    Follows (takeBytes part count) (RuleFile.takeBytes part count) (·.length = count) := by
  intro bytes
  change Ran Error.IsRefusal (need part count bytes >>= fun result => split count result.2) _ _
  unfold need RuleFile.takeBytes
  by_cases enough : hasAtLeast count bytes = true
  · have within := (hasAtLeast_iff _ _).mp enough
    rw [if_pos enough, if_pos enough]
    exact ⟨split_eq within, List.length_take_of_le within⟩
  · rw [if_neg enough, if_neg enough]
    exact ⟨rfl, trivial⟩

theorem takeNumber_follows (width : Nat) :
    Follows (takeNumber part width) (RuleFile.takeNumber part width)
      (· < Nat.pow 256 width) := by
  intro bytes
  apply (takeBytes_follows part width bytes).next
  intro digits rest exact
  apply Ran.pure
  rw [← exact]
  exact LittleEndian.value_lt digits

theorem takeOptional_follows :
    Follows (takeOptional part) (RuleFile.takeOptional part) fun _ => True := by
  intro bytes
  apply (takeNumber_follows part 4 bytes).next
  intro number rest _
  exact Ran.pure trivial

theorem checkCount_ran (size count : Nat) (bytes : List UInt8) {next : Taking β}
    {following : Except Error (β × List UInt8)} {good : β × List UInt8 → Prop}
    (second : count * size ≤ bytes.length → Ran Error.IsRefusal (next bytes) following good) :
    Ran Error.IsRefusal ((checkCount part size count >>= fun _ => next) bytes)
      (RuleFile.checkCount part size count bytes >>= fun _ => following) good := by
  change Ran Error.IsRefusal (checkCount part size count bytes >>= fun result => next result.2) _ _
  unfold checkCount RuleFile.checkCount
  by_cases enough : hasAtLeast (count * size) bytes = true
  · rw [if_pos enough, if_pos enough]
    exact second ((hasAtLeast_iff _ _).mp enough)
  · rw [if_neg enough, if_neg enough]
    exact ⟨rfl, trivial⟩

theorem takeCount_ran (size : Nat) (bytes : List UInt8) :
    Ran Error.IsRefusal (takeCount part size bytes) (RuleFile.takeCount part size bytes)
      fun result => result.1 * size ≤ result.2.length := by
  apply (takeNumber_follows part 4 bytes).next
  intro count rest _
  apply checkCount_ran
  intro enough
  exact Ran.pure enough

theorem takeSized_follows :
    Follows (takeSized part) (RuleFile.takeSized part) fun _ => True := by
  intro bytes
  apply (takeCount_ran part 1 bytes).next
  intro count rest enough
  rw [Nat.mul_one] at enough
  exact ⟨split_eq enough, trivial⟩

theorem takeText_follows : Follows (takeText part) (RuleFile.takeText part) fun _ => True := by
  intro bytes
  apply (takeSized_follows part bytes).next
  intro encoded rest _
  dsimp only
  cases String.fromUTF8? ⟨encoded.toArray⟩ with
  | some text => exact Ran.pure trivial
  | none => exact Ran.refuse _

end

/-! ## Lists of items -/

section

variable {strict : Taking α} {plain : RuleFile.Reading α} {good : α → Prop}
  (each : Follows strict plain good)
include each

theorem takeMany_follows (count : Nat) {taken : Array α} (before : ∀ item ∈ taken, good item) :
    Follows (takeMany strict count taken) (RuleFile.takeMany plain count taken)
      fun items => items.size = taken.size + count ∧ ∀ item ∈ items, good item := by
  intro bytes
  induction count generalizing taken bytes with
  | zero => exact Ran.pure ⟨rfl, before⟩
  | succ count ih =>
      have stepped : RuleFile.takeMany plain (count + 1) taken bytes =
          plain bytes >>= fun result =>
            RuleFile.takeMany plain count (taken.push result.1) result.2 := by
        rw [RuleFile.takeMany]
        cases plain bytes <;> rfl
      rw [stepped]
      apply (each bytes).next
      intro item rest isGood
      have all : ∀ other ∈ taken.push item, good other := by
        intro other member
        rcases Array.mem_push.mp member with earlier | isLast
        · exact before other earlier
        · exact isLast ▸ isGood
      apply (ih all rest).imp
      rintro ⟨items, _⟩ ⟨size, holds⟩
      rw [Array.size_push, Nat.add_assoc, Nat.add_comm 1] at size
      exact ⟨size, holds⟩

omit each in
theorem good_of_mem_empty (item : α) (member : item ∈ (#[] : Array α)) : good item :=
  absurd member (Array.not_mem_empty item)

theorem takeItems_follows (part : Part) (size count : Nat) :
    Follows (takeItems part size count strict) (RuleFile.takeItems part size count plain)
      fun items => items.size = count ∧ ∀ item ∈ items, good item := by
  intro bytes
  apply checkCount_ran
  intro _
  apply (takeMany_follows each count good_of_mem_empty bytes).imp
  rintro ⟨items, _⟩ ⟨size, holds⟩
  exact ⟨size.trans (Nat.zero_add count), holds⟩

theorem takeCounted_follows (part : Part) (size : Nat) :
    Follows (takeCounted part size strict) (RuleFile.takeCounted part size plain)
      fun items => ∀ item ∈ items, good item := by
  intro bytes
  apply (takeCount_ran part size bytes).next
  intro count rest _
  apply (takeMany_follows each count good_of_mem_empty rest).imp
  rintro ⟨items, _⟩ ⟨_, holds⟩
  exact holds

end

/-! ## Rules, strings and external variables -/

theorem takeStringNumber_follows (rule : String) (strings : Nat) :
    Follows (takeStringNumber rule strings) (RuleFile.takeStringNumber rule strings)
      (· < strings) := by
  intro bytes
  apply (takeNumber_follows .ruleString 4 bytes).next
  intro number rest _
  apply Ran.ite
  · intro known
    exact Ran.pure known
  · intro _
    exact Ran.refuse _

theorem takeRule_follows (spaces strings : Nat) :
    Follows (takeRule spaces strings) (RuleFile.takeRule spaces strings)
      fun rule => rule.space < spaces ∧ ∀ string ∈ rule.strings, string < strings := by
  intro bytes
  apply (takeText_follows .ruleIdentifier bytes).next
  intro identifier bytes _
  apply (takeNumber_follows .ruleSpace 4 bytes).next
  intro space bytes _
  apply Ran.ite
  · intro _
    exact Ran.refuse _
  · intro known
    apply (takeNumber_follows .ruleFlags 1 bytes).next
    intro flags bytes _
    dsimp only
    cases Rule.ofFlagBits? flags with
    | none => exact Ran.refuse _
    | some flags =>
        apply (takeCounted_follows (takeStringNumber_follows identifier strings)
          .ruleStrings 4 bytes).next
        intro own bytes isKnown
        apply (takeCounted_follows (takeText_follows .ruleTag) .ruleTags 4 bytes).next
        intro tags bytes _
        refine Ran.pure ⟨Nat.lt_of_not_le known, ?_⟩
        intro string member
        exact isKnown string (Array.mem_toList_iff.mp member)

theorem takePattern_follows (identifier : String) (caseless : Bool) :
    Follows (takePattern identifier caseless) (RuleFile.takePattern identifier caseless)
      fun _ => True := by
  intro bytes
  apply (takeNumber_follows .stringKind 1 bytes).next
  intro kind bytes _
  match kind with
  | 0 =>
      apply (takeSized_follows .textBytes bytes).next
      intro text bytes _
      exact Ran.pure trivial
  | 1 =>
      apply (takeSized_follows .hexBytes bytes).next
      intro values bytes _
      apply (takeSized_follows .hexMask bytes).next
      intro masks bytes _
      apply Ran.ite
      · intro _
        exact Ran.refuse _
      · intro _
        exact Ran.pure trivial
  | 2 =>
      apply (takeText_follows .regexSource bytes).next
      intro source bytes _
      dsimp only
      cases Regex.ofSource source caseless with
      | ok regex => exact Ran.pure trivial
      | error fault => exact Ran.refuse _
  | kind + 3 => exact Ran.refuse _

theorem takeString_follows (rules : Nat) :
    Follows (takeString rules) (RuleFile.takeString rules) fun string => string.rule < rules := by
  intro bytes
  apply (takeText_follows .stringIdentifier bytes).next
  intro identifier bytes _
  apply (takeNumber_follows .stringRule 4 bytes).next
  intro rule bytes _
  apply Ran.ite
  · intro _
    exact Ran.refuse _
  · intro known
    apply (takeNumber_follows .stringModifiers 1 bytes).next
    intro bits bytes _
    dsimp only
    cases Modifiers.ofBits? bits with
    | none => exact Ran.refuse _
    | some modifiers =>
        apply (takePattern_follows identifier modifiers.nocase bytes).next
        intro pattern bytes _
        exact Ran.pure (Nat.lt_of_not_le known)

theorem takeValue_follows : Follows takeValue RuleFile.takeValue fun _ => True := by
  intro bytes
  apply (takeNumber_follows .externalKind 1 bytes).next
  intro kind bytes _
  match kind with
  | 0 | 1 | 2 =>
      apply (takeNumber_follows .externalValue _ bytes).next
      intro value bytes _
      exact Ran.pure trivial
  | 3 | 4 =>
      apply (takeSized_follows .externalValue bytes).next
      intro value bytes _
      exact Ran.pure trivial
  | kind + 5 => exact Ran.refuse _

theorem takeExternal_follows : Follows takeExternal RuleFile.takeExternal fun _ => True := by
  intro bytes
  apply (takeText_follows .externalIdentifier bytes).next
  intro identifier bytes _
  apply (takeValue_follows bytes).next
  intro value bytes _
  exact Ran.pure trivial

/-! ## Tables and the start of a file -/

theorem takeCell_follows : Follows takeCell RuleFile.takeCell fun _ => True := by
  intro bytes
  apply (takeBytes_follows .cells 8 bytes).next
  intro cell bytes _
  exact Ran.pure trivial

theorem takeCandidate_follows :
    Follows takeCandidate RuleFile.takeCandidate fun _ => True := by
  intro bytes
  apply (takeNumber_follows .candidates 2 bytes).next
  intro backtrack bytes _
  apply (takeNumber_follows .candidates 4 bytes).next
  intro string bytes _
  apply (takeOptional_follows .candidates bytes).next
  intro next bytes _
  exact Ran.pure trivial

theorem takeHeader_follows :
    Follows takeHeader RuleFile.takeHeader fun header => header.cells < UInt32.size := by
  intro bytes
  apply (takeNumber_follows .header 4 bytes).next
  intro codeStart bytes _
  apply (takeNumber_follows .header 4 bytes).next
  intro spaces bytes _
  apply (takeNumber_follows .header 4 bytes).next
  intro rules bytes _
  apply (takeNumber_follows .header 4 bytes).next
  intro strings bytes _
  apply (takeNumber_follows .header 4 bytes).next
  intro externals bytes _
  apply (takeNumber_follows .header 4 bytes).next
  intro states bytes _
  apply (takeNumber_follows .header 4 bytes).next
  intro candidates bytes _
  apply (takeNumber_follows .header 4 bytes).next
  intro cells bytes fits
  apply (takeNumber_follows .header 4 bytes).next
  intro code bytes _
  exact Ran.pure fits

theorem takeMagic_follows : Follows takeMagic RuleFile.takeMagic fun _ => True := by
  intro bytes
  change Ran Error.IsRefusal
    (need .header 8 bytes >>= fun result => split 4 result.2 >>= fun result => _) _ _
  unfold need RuleFile.takeMagic
  by_cases enough : hasAtLeast 8 bytes = true
  · have within := (hasAtLeast_iff _ _).mp enough
    have second : hasAtLeast 4 (bytes.drop 4) = true := by
      rw [hasAtLeast_iff, List.length_drop]
      omega
    have number : RuleFile.takeNumber .header 4 (bytes.drop 4) =
        .ok (LittleEndian.value ((bytes.drop 4).take 4), bytes.drop 8) := by
      simp only [RuleFile.takeNumber, RuleFile.takeBytes, if_pos second, bind, Except.bind,
        List.drop_drop]
    have strict := (takeNumber_follows .header 4 (bytes.drop 4)).1
    rw [number] at strict
    rw [enough, if_pos rfl, Bool.not_true, if_neg Bool.false_ne_true]
    change Ran Error.IsRefusal (split 4 bytes >>= fun result => _) _ _
    rw [split_eq (by omega)]
    change Ran Error.IsRefusal ((if _ then _ else _ : Taking Unit) _) _ _
    apply Ran.ite
    · intro _
      exact ⟨rfl, trivial⟩
    · intro _
      change Ran Error.IsRefusal (takeNumber .header 4 (bytes.drop 4) >>= fun result => _) _ _
      rw [strict]
      change Ran Error.IsRefusal ((if _ then _ else _ : Taking Unit) _) _ _
      apply Ran.ite
      · intro _
        exact ⟨rfl, trivial⟩
      · intro _
        exact Ran.pure trivial
  · rw [Bool.not_eq_true] at enough
    rw [enough]
    exact ⟨rfl, trivial⟩

end Strict

end ByteScan
