import ByteScan.Json.Basic
import ByteScan.Binary64.Writing

/-!
# Writing JSON text

Values are written without blanks, entries in their order. A double is written with the fewest
digits that read back and always shows that it is one: by a point, or by an exponent where its
first digit stands more than five places after the point or beyond the sixteenth place before it.
-/

namespace ByteScan.Json

def escapeChar (c : Char) : List Char :=
  if c = '"' then ['\\', '"']
  else if c = '\\' then ['\\', '\\']
  else if c = '\n' then ['\\', 'n']
  else if c = '\r' then ['\\', 'r']
  else if c = '\t' then ['\\', 't']
  else if c = '\x08' then ['\\', 'b']
  else if c = '\x0c' then ['\\', 'f']
  else if c.toNat < 0x20 then '\\' :: 'u' :: '0' :: '0' :: Byte.hexDigits (UInt8.ofNat c.toNat)
  else [c]

def writeString (value : String) : List Char :=
  '"' :: value.toList.flatMap escapeChar ++ ['"']

def writeMagnitude (bits : Nat) : List Char :=
  let decimal := Binary64.shortest bits
  let digits := Text.digits 10 decimal.coefficient
  let first : Int := digits.length + decimal.exponent - 1
  if -5 ≤ first ∧ first ≤ 15 then
    match decimal.exponent with
    | .ofNat _ => decimal.positional ++ ['.', '0']
    | .negSucc _ => decimal.positional
  else
    let lead := match digits with
      | [] => []
      | [digit] => [digit]
      | digit :: more => digit :: '.' :: more
    let sign := if first < 0 then '-' else '+'
    lead ++ 'e' :: sign :: Text.digits 10 first.natAbs

/-- A double; one that is no finite number is written as `null`. -/
def writeFloat (value : Binary64) : List Char :=
  if value.isNaN || value.isInfinite then "null".toList
  else
    let sign := if value.isNegative then ['-'] else []
    sign ++ if value.isZero then "0.0".toList else writeMagnitude value.magnitude

mutual

def write : Json → List Char
  | .null | .outOfRange | .unpaired => "null".toList
  | .bool true => "true".toList
  | .bool false => "false".toList
  | .natural value => Text.digits 10 value
  | .negative value => '-' :: Text.digits 10 value.natAbs
  | .float value => writeFloat value
  | .string value => writeString value
  | .array items => '[' :: writeItems items ++ [']']
  | .object entries => '{' :: writeEntries entries ++ ['}']

def writeItems : List Json → List Char
  | [] => []
  | [item] => write item
  | item :: items => write item ++ ',' :: writeItems items

def writeEntries : List (Option String × Json) → List Char
  | [] => []
  | [(key, value)] => writeString (key.getD "") ++ ':' :: write value
  | (key, value) :: entries =>
    writeString (key.getD "") ++ ':' :: write value ++ ',' :: writeEntries entries

end

def text (value : Json) : String := String.ofList value.write

end ByteScan.Json
