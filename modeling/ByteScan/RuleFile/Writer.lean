import ByteScan.LittleEndian
import ByteScan.RuleSet.Basic

/-!
# Writing compiled rule files

A compiled rule file begins with four letters, the version of the format and nine numbers: where the
code begins, and how many namespaces, rules, strings, external variables, states, candidates, cells
and bytes of code there are. Then follow the namespaces, rules, strings, external variables, cells,
heads of lists, candidates and the code. All numbers are little-endian. Text and bytes come after
their length, lists after their count. An index that may be absent is stored plus one, and zero
where it is absent.
-/

namespace ByteScan.RuleFile

def magic : List UInt8 := [0x52, 0x53, 0x43, 0x4e]

def version : Nat := 1

def byte (number : Nat) : List UInt8 := LittleEndian.encode 1 number

def half (number : Nat) : List UInt8 := LittleEndian.encode 2 number

def word (number : Nat) : List UInt8 := LittleEndian.encode 4 number

def long (number : Nat) : List UInt8 := LittleEndian.encode 8 number

def sized (bytes : List UInt8) : List UInt8 := word bytes.length ++ bytes

def sizedText (text : String) : List UInt8 := sized text.toUTF8.toList

def optional (index : Option Nat) : List UInt8 :=
  match index with
  | some index => word (index + 1)
  | none => word 0

def counted (write : α → List UInt8) (items : List α) : List UInt8 :=
  word items.length ++ items.flatMap write

def writeRule (rule : Rule) : List UInt8 :=
  sizedText rule.identifier ++ word rule.space ++ byte rule.flagBits ++ counted word rule.strings ++
    counted sizedText rule.tags

def writePattern : Pattern caseless → List UInt8
  | .text bytes => byte 0 ++ sized bytes
  | .hex bytes => byte 1 ++ sized (bytes.map MaskedByte.value) ++ sized (bytes.map MaskedByte.mask)
  | .regex regex => byte 2 ++ sizedText regex.source

def writeString (string : StringDef) : List UInt8 :=
  sizedText string.identifier ++ word string.rule ++ byte string.modifiers.bits ++
    writePattern string.pattern

def writeValue : ExternalValue → List UInt8
  | .integer value => byte 0 ++ long value.toUInt64.toNat
  | .boolean value => byte 1 ++ byte value.toNat
  | .float value => byte 2 ++ long value.bits.toNat
  | .string bytes false => byte 3 ++ sized bytes
  | .string bytes true => byte 4 ++ sized bytes

def writeExternal (external : External) : List UInt8 :=
  sizedText external.identifier ++ writeValue external.value

def writeCell (cell : Cell) : List UInt8 := word cell.label.toNat ++ word cell.next.toNat

def writeCandidate (candidate : Candidate) : List UInt8 :=
  half candidate.backtrack.toNat ++ word candidate.string ++ optional candidate.next

def counts (rules : RuleSet) : List Nat :=
  [rules.codeStart, rules.spaces.size, rules.rules.size, rules.strings.size, rules.externals.length,
    rules.automaton.stateCount, rules.automaton.candidates.size, rules.automaton.cells.size,
    rules.code.length]

def write (rules : RuleSet) : List UInt8 :=
  magic ++ word version ++ (counts rules).flatMap word ++
    rules.spaces.toList.flatMap sizedText ++ rules.rules.toList.flatMap writeRule ++
    rules.strings.toList.flatMap writeString ++ rules.externals.flatMap writeExternal ++
    rules.automaton.cells.toList.flatMap writeCell ++
    rules.automaton.heads.toList.flatMap optional ++
    rules.automaton.candidates.toList.flatMap writeCandidate ++ rules.code

end ByteScan.RuleFile
