import ByteScan.Pattern.Basic

/-!
# Atoms of strings

An atom is a short run of bytes that stands in every occurrence of a string, at a known distance
from its start. Scanning looks for the atoms of all strings at once and then looks at the places
where one stands. A string without a usable run has the empty atom, which stands everywhere.
-/

namespace ByteScan

/-- Bytes that tell where a string may occur. -/
structure Atom where
  bytes : List UInt8
  /-- The distance from the start of the string to the end of the bytes. -/
  backtrack : UInt16
  deriving DecidableEq, Repr

namespace Atom

def lengthLimit : Nat := 4

def everywhere : Atom := ⟨[], 0⟩

/-- The atom of bytes that stand `start` bytes after the start of the string, unless they end too
far from it. -/
def at? (bytes : List UInt8) (start : Nat) : Option Atom :=
  let backtrack := start + bytes.length
  if backtrack < UInt16.size then some ⟨bytes, UInt16.ofNat backtrack⟩ else none

def caseForms (byte : UInt8) : List UInt8 :=
  if Byte.isLetter byte then [Byte.toLower byte, Byte.toUpper byte] else [byte]

def casePermutations : List UInt8 → List (List UInt8)
  | [] => [[]]
  | byte :: bytes => (caseForms byte).flatMap fun form => (casePermutations bytes).map (form :: ·)

def widen (bytes : List UInt8) : List UInt8 := bytes.flatMap fun byte => [byte, 0]

def ofForms (nocase : Bool) (bytes : List UInt8) : List Atom :=
  let forms := if nocase then casePermutations bytes else [bytes]
  forms.filterMap fun form => at? form 0

def ofStart (nocase : Bool) (bytes : List UInt8) : List Atom :=
  ofForms nocase (bytes.take lengthLimit)

/-- A run of a hex pattern: where it begins, and its bytes. -/
structure Run where
  start : Nat
  reversed : List UInt8

def Run.longer (first second : Run) : Run :=
  if first.reversed.length < second.reversed.length then second else first

/-- The longest run of bytes with every bit given, the first if several are equally long. -/
def longestRun (best current : Run) (index : Nat) : List MaskedByte → Run
  | [] => best.longer current
  | expected :: bytes =>
    if expected.isFixed then
      longestRun best { current with reversed := expected.value :: current.reversed } (index + 1)
        bytes
    else longestRun (best.longer current) ⟨index + 1, []⟩ (index + 1) bytes

def ofHex? (bytes : List MaskedByte) : Option Atom :=
  let run := longestRun ⟨0, []⟩ ⟨0, []⟩ 0 bytes
  match run.reversed.reverse.take lengthLimit with
  | [] => none
  | fixed => at? fixed run.start

def isRegexSpecial (c : Char) : Bool := "\\.^$|()[]\x7b\x7d*+?".toList.contains c

def spanPlain : List Char → List UInt8 × List Char
  | [] => ([], [])
  | c :: rest =>
    if c.toNat < 0x80 && !isRegexSpecial c then
      let (plain, after) := spanPlain rest
      (UInt8.ofNat c.toNat :: plain, after)
    else ([], c :: rest)

/-- The bytes that the text of a regular expression begins with. A character that may be left out
because of what follows it does not count, and nothing does where there are alternatives. -/
def regexPrefix (source : String) : List UInt8 :=
  if source.toList.contains '|' then []
  else
    let (plain, after) := spanPlain source.toList
    match after with
    | '*' :: _ | '?' :: _ | '\x7b' :: _ => plain.dropLast
    | _ => plain

/-- Atoms that stand in every occurrence of a string, before they are sorted. -/
def candidates (string : StringDef) : List Atom :=
  let nocase := string.modifiers.nocase
  match string.pattern with
  | .text text =>
    (if string.modifiers.narrow then ofStart nocase text else []) ++
      if string.modifiers.wide then ofForms nocase (widen (text.take (lengthLimit / 2))) else []
  | .hex bytes => (ofHex? bytes).toList
  | .regex regex => ofStart nocase (regexPrefix regex.source)

def dropRepeated : List Atom → List Atom
  | first :: second :: atoms =>
    if first = second then dropRepeated (second :: atoms)
    else first :: dropRepeated (second :: atoms)
  | atoms => atoms

def sorted (atoms : List Atom) : List Atom :=
  dropRepeated (atoms.mergeSort fun first second => decide (first.bytes ≤ second.bytes))

/-- The atoms that are looked for to find a string. -/
def ofString (string : StringDef) : List Atom :=
  let atoms := sorted (candidates string)
  if atoms.isEmpty || atoms.any fun atom => atom.bytes.isEmpty then [everywhere] else atoms

end Atom

end ByteScan
