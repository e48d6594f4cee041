import ByteScan.Text.Age
import ByteScan.Text.Boundary

/-!
# Names of properties

A set of characters is named by a property, a general category or a script, or by a property and one
of its values. In names neither case nor blanks, dashes and underscores matter, and the word `is` may
lead them.
-/

namespace ByteScan.Text.PropertyName

/-- What matters of the characters of a name: those of ASCII that are not left out, in small
letters. -/
def letters (name : List Char) : List Char :=
  (name.filter fun c => c.toNat < 0x80 && c != ' ' && c != '_' && c != '-').map Char.toLower

/-- What matters of a name. The name of comments is not taken for that of a category. -/
def loose (name : List Char) : String :=
  let (led, rest) := match name with
    | first :: second :: rest =>
      if first.toLower = 'i' ∧ second.toLower = 's' then (true, rest) else (false, name)
    | _ => (false, name)
  let kept := String.ofList (letters rest)
  if led && kept == "c" then "isc" else kept

def find? (table : List (List String × ScalarRanges)) (name : String) : Option ScalarRanges :=
  (table.find? fun entry => entry.1.contains name).map Prod.snd

def category? (name : String) : Option ScalarRanges :=
  match name with
  | "any" => some [(0, ScalarRanges.last)]
  | "assigned" => some Category.unassigned.complement
  | "ascii" => some [(0, 0x7f)]
  | _ => find? Category.byName name

def script? (name : String) : Option ScalarRanges := (Script.named? name).map Script.ranges

/-- Names that stand for categories, though properties have them too. -/
def categoriesFirst : List String := ["cf", "sc", "lc"]

def characters? (name : String) : Option ScalarRanges :=
  let property? := if categoriesFirst.contains name then none else find? Property.byName name
  property?.or ((category? name).or (script? name))

def valued? (name value : String) : Option ScalarRanges :=
  match name with
  | "gc" | "generalcategory" => category? value
  | "sc" | "script" => script? value
  | "scx" | "scriptextensions" => (Script.named? value).map Script.users
  | "age" => Age.upTo? value
  | "gcb" | "graphemeclusterbreak" => find? Cluster.byName value
  | "wb" | "wordbreak" => find? Word.byName value
  | "sb" | "sentencebreak" => find? Sentence.byName value
  | _ => none

def splitUnequal? : List Char → Option (List Char × List Char)
  | '!' :: '=' :: rest => some ([], rest)
  | c :: rest => (splitUnequal? rest).map fun (name, value) => (c :: name, value)
  | [] => none

def splitAt? (mark : Char) (text : List Char) : Option (List Char × List Char) :=
  match text.span (· ≠ mark) with
  | (name, _ :: value) => some (name, value)
  | (_, []) => none

/-- The characters that a text names, or all others where the first part of the result says so. -/
def read? (text : String) : Option (Bool × ScalarRanges) :=
  match splitUnequal? text.toList with
  | some (name, value) => (valued? (loose name) (loose value)).map (true, ·)
  | none =>
    let found :=
      match (splitAt? ':' text.toList).or (splitAt? '=' text.toList) with
      | some (name, value) => valued? (loose name) (loose value)
      | none => characters? (loose text.toList)
    found.map (false, ·)

end ByteScan.Text.PropertyName
