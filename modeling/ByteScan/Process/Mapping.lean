import ByteScan.Text.Blank
import ByteScan.Text.Integer

/-!
# Mapped memory

The system lists the memory of a process as lines, one for each range of addresses that is mapped:
the range, what may be done with it, where it begins in which file, and the path of that file. The
numbers are hexadecimal. `Mapping.ofLine?` reads such a line; a range never ends before it starts.
-/

namespace ByteScan

structure Protection where
  readable : Bool
  writable : Bool
  executable : Bool
  deriving DecidableEq, Repr, Inhabited

namespace Protection

def bits (protection : Protection) : Nat :=
  protection.readable.toNat + 2 * protection.writable.toNat + 4 * protection.executable.toNat

/-- The protection that the leading characters of a field tell; a dash takes a right away. -/
def ofChars (chars : List Char) : Protection where
  readable := (chars[0]?.getD '-') != '-'
  writable := (chars[1]?.getD '-') != '-'
  executable := (chars[2]?.getD '-') != '-'

def letter (given : Bool) (name : Char) : Char := if given then name else '-'

def text (protection : Protection) : String :=
  String.ofList
    [letter protection.readable 'r', letter protection.writable 'w',
      letter protection.executable 'x']

end Protection

structure Mapping where
  start : UInt64
  stop : UInt64
  protection : Protection
  offset : UInt64
  path : Option String
  start_le_stop : start ≤ stop
  deriving DecidableEq, Repr

namespace Mapping

def size (mapping : Mapping) : UInt64 := mapping.stop - mapping.start

def address? (digits : List Char) : Option UInt64 :=
  (Text.readUnsigned 16 (UInt64.size - 1) (String.ofList digits)).toOption.map UInt64.ofNat

def splitRange? (range : List Char) : Option (List Char × List Char) :=
  match range.dropWhile (· != '-') with
  | [] => none
  | _ :: after => some (range.takeWhile (· != '-'), after)

/-- The path from the fields after the numbers. -/
def pathOf (names : List (List Char)) : Option String :=
  let path := " ".intercalate (names.map String.ofList)
  if path.isEmpty then none else some path

def ofLine? (line : String) : Option Mapping :=
  match Text.fields line.toList with
  | range :: rights :: offset :: _ :: _ :: names => do
    let (low, high) ← splitRange? range
    let start ← address? low
    let stop ← address? high
    let offset ← address? offset
    if h : start ≤ stop then
      some ⟨start, stop, .ofChars rights, offset, pathOf names, h⟩
    else none
  | _ => none

def text (mapping : Mapping) : String :=
  let place := match mapping.path with
    | some path => " " ++ path
    | none => ""
  Text.hexPadded 16 mapping.start.toNat ++ "-" ++ Text.hexPadded 16 mapping.stop.toNat ++ " " ++
    mapping.protection.text ++ place

def malformedMessage (line : String) : String := "Malformed memory map line: " ++ line

end Mapping

end ByteScan
