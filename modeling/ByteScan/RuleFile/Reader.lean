import ByteScan.Length
import ByteScan.RuleFile.Writer

/-!
# Reading compiled rule files

`read` takes a compiled rule file apart and refuses it where it is not what `write` could have
produced for a rule set that is safe to use. Before a list is read, its count is checked against the
bytes that are left, of which each item needs some.
-/

namespace ByteScan.RuleFile

/-- Takes something off the front of some bytes. -/
abbrev Reading (α : Type) := List UInt8 → Except Error (α × List UInt8)

def damaged (fault : Fault) : Except Error α := .error (.corrupt (.file fault))

def takeBytes (part : Part) (count : Nat) : Reading (List UInt8) := fun bytes =>
  if hasAtLeast count bytes then .ok (bytes.take count, bytes.drop count)
  else damaged (.truncated part)

def takeNumber (part : Part) (width : Nat) : Reading Nat := fun bytes => do
  let (digits, rest) ← takeBytes part width bytes
  .ok (LittleEndian.value digits, rest)

def takeOptional (part : Part) : Reading (Option Nat) := fun bytes => do
  let (number, rest) ← takeNumber part 4 bytes
  .ok (if number = 0 then none else some (number - 1), rest)

def checkCount (part : Part) (size count : Nat) (bytes : List UInt8) : Except Error Unit :=
  if hasAtLeast (count * size) bytes then .ok ()
  else damaged (.countExceeds part count)

def takeCount (part : Part) (size : Nat) : Reading Nat := fun bytes => do
  let (count, rest) ← takeNumber part 4 bytes
  checkCount part size count rest
  .ok (count, rest)

def takeSized (part : Part) : Reading (List UInt8) := fun bytes => do
  let (count, rest) ← takeCount part 1 bytes
  .ok (rest.take count, rest.drop count)

def takeText (part : Part) : Reading String := fun bytes => do
  let (encoded, rest) ← takeSized part bytes
  match String.fromUTF8? ⟨encoded.toArray⟩ with
  | some text => .ok (text, rest)
  | none => damaged (.notUtf8 part)

/-- Takes a number of items; `taken` are those taken before. -/
def takeMany (item : Reading α) : Nat → Array α → Reading (Array α)
  | 0, taken, bytes => .ok (taken, bytes)
  | count + 1, taken, bytes =>
    match item bytes with
    | .ok (next, rest) => takeMany item count (taken.push next) rest
    | .error error => .error error

/-- Takes a number of items of at least `size` bytes each, after checking that they may follow. -/
def takeItems (part : Part) (size count : Nat) (item : Reading α) : Reading (Array α) :=
  fun bytes => do
    checkCount part size count bytes
    takeMany item count #[] bytes

def takeCounted (part : Part) (size : Nat) (item : Reading α) : Reading (Array α) := fun bytes => do
  let (count, rest) ← takeCount part size bytes
  takeMany item count #[] rest

def takeStringNumber (rule : String) (strings : Nat) : Reading Nat := fun bytes => do
  let (number, rest) ← takeNumber .ruleString 4 bytes
  if number < strings then .ok (number, rest) else damaged (.unknownString rule)

def takeRule (spaces strings : Nat) : Reading Rule := fun bytes => do
  let (identifier, bytes) ← takeText .ruleIdentifier bytes
  let (space, bytes) ← takeNumber .ruleSpace 4 bytes
  if spaces ≤ space then damaged (.unknownSpace identifier)
  else
    let (flags, bytes) ← takeNumber .ruleFlags 1 bytes
    match Rule.ofFlagBits? flags with
    | none => damaged (.unknownFlags identifier)
    | some (isPrivate, isGlobal) =>
      let (own, bytes) ← takeCounted .ruleStrings 4 (takeStringNumber identifier strings) bytes
      let (tags, bytes) ← takeCounted .ruleTags 4 (takeText .ruleTag) bytes
      .ok (⟨identifier, space, isPrivate, isGlobal, own.toList, tags.toList⟩, bytes)

def takePattern (identifier : String) (caseless : Bool) : Reading (Pattern caseless) :=
  fun bytes => do
    let (kind, bytes) ← takeNumber .stringKind 1 bytes
    match kind with
    | 0 => do
      let (text, bytes) ← takeSized .textBytes bytes
      .ok (.text text, bytes)
    | 1 => do
      let (values, bytes) ← takeSized .hexBytes bytes
      let (masks, bytes) ← takeSized .hexMask bytes
      if values.length ≠ masks.length then damaged (.mismatchedMask identifier)
      else .ok (.hex (values.zipWith MaskedByte.mk masks), bytes)
    | 2 => do
      let (source, bytes) ← takeText .regexSource bytes
      match Regex.ofSource source caseless with
      | .ok regex => .ok (.regex regex, bytes)
      | .error fault => damaged (.invalidRegex identifier fault)
    | _ => damaged (.unknownStringKind (UInt8.ofNat kind))

def takeString (rules : Nat) : Reading StringDef := fun bytes => do
  let (identifier, bytes) ← takeText .stringIdentifier bytes
  let (rule, bytes) ← takeNumber .stringRule 4 bytes
  if rules ≤ rule then damaged (.unknownRule identifier)
  else
    let (bits, bytes) ← takeNumber .stringModifiers 1 bytes
    match Modifiers.ofBits? bits with
    | none => damaged (.unknownModifiers identifier)
    | some modifiers =>
      let (pattern, bytes) ← takePattern identifier modifiers.nocase bytes
      .ok (⟨identifier, rule, modifiers, pattern⟩, bytes)

def takeValue : Reading ExternalValue := fun bytes => do
  let (kind, bytes) ← takeNumber .externalKind 1 bytes
  match kind with
  | 0 => do
    let (value, bytes) ← takeNumber .externalValue 8 bytes
    .ok (.integer (UInt64.ofNat value).toInt64, bytes)
  | 1 => do
    let (value, bytes) ← takeNumber .externalValue 1 bytes
    .ok (.boolean (value ≠ 0), bytes)
  | 2 => do
    let (value, bytes) ← takeNumber .externalValue 8 bytes
    .ok (.float ⟨UInt64.ofNat value⟩, bytes)
  | 3 => do
    let (value, bytes) ← takeSized .externalValue bytes
    .ok (.string value false, bytes)
  | 4 => do
    let (value, bytes) ← takeSized .externalValue bytes
    .ok (.string value true, bytes)
  | _ => damaged (.unknownExternalKind (UInt8.ofNat kind))

def takeExternal : Reading External := fun bytes => do
  let (identifier, bytes) ← takeText .externalIdentifier bytes
  let (value, bytes) ← takeValue bytes
  .ok (⟨identifier, value⟩, bytes)

def takeCell : Reading Cell := fun bytes => do
  let (cell, bytes) ← takeBytes .cells 8 bytes
  let label := LittleEndian.value (cell.take 4)
  let next := LittleEndian.value (cell.drop 4)
  .ok (⟨UInt32.ofNat next, UInt32.ofNat label⟩, bytes)

def takeCandidate : Reading Candidate := fun bytes => do
  let (backtrack, bytes) ← takeNumber .candidates 2 bytes
  let (string, bytes) ← takeNumber .candidates 4 bytes
  let (next, bytes) ← takeOptional .candidates bytes
  .ok (⟨UInt16.ofNat backtrack, string, next⟩, bytes)

structure Header where
  codeStart : Nat
  spaces : Nat
  rules : Nat
  strings : Nat
  externals : Nat
  states : Nat
  candidates : Nat
  cells : Nat
  code : Nat

def takeHeader : Reading Header := fun bytes => do
  let (codeStart, bytes) ← takeNumber .header 4 bytes
  let (spaces, bytes) ← takeNumber .header 4 bytes
  let (rules, bytes) ← takeNumber .header 4 bytes
  let (strings, bytes) ← takeNumber .header 4 bytes
  let (externals, bytes) ← takeNumber .header 4 bytes
  let (states, bytes) ← takeNumber .header 4 bytes
  let (candidates, bytes) ← takeNumber .header 4 bytes
  let (cells, bytes) ← takeNumber .header 4 bytes
  let (code, bytes) ← takeNumber .header 4 bytes
  .ok (⟨codeStart, spaces, rules, strings, externals, states, candidates, cells, code⟩, bytes)

def takeMagic : Reading Unit := fun bytes =>
  if !hasAtLeast 8 bytes then damaged (.truncated .header)
  else if bytes.take 4 ≠ magic then .error .unsupportedVersion
  else if LittleEndian.value ((bytes.drop 4).take 4) ≠ version then .error .unsupportedVersion
  else .ok ((), bytes.drop 8)

def read (bytes : List UInt8) : Except Error RuleSet := do
  let ((), bytes) ← takeMagic bytes
  let (header, bytes) ← takeHeader bytes
  let (spaces, bytes) ← takeItems .spaces 4 header.spaces (takeText .spaceName) bytes
  let (rules, bytes) ←
    takeItems .rules 17 header.rules (takeRule spaces.size header.strings) bytes
  let (strings, bytes) ← takeItems .strings 10 header.strings (takeString rules.size) bytes
  let (externals, bytes) ← takeItems .externals 5 header.externals takeExternal bytes
  let (cells, bytes) ← takeItems .cells 12 header.cells takeCell bytes
  let (heads, bytes) ← takeMany (takeOptional .heads) header.cells #[] bytes
  let (candidates, bytes) ← takeItems .candidates 10 header.candidates takeCandidate bytes
  let (code, bytes) ← takeBytes .code header.code bytes
  if !bytes.isEmpty then damaged .trailingData
  else if header.code ≤ header.codeStart then damaged .codeStart
  else
    match Automaton.ofTables ⟨cells, heads, candidates, strings.size⟩ with
    | .error fault => .error (.corrupt (.tables fault))
    | .ok automaton =>
      if automaton.stateCount ≠ header.states then damaged .stateCount
      else
        .ok {
          spaces, rules, strings, externals := externals.toList, automaton, code,
          codeStart := header.codeStart }

end ByteScan.RuleFile
