import ByteScan.Json.Decoder
import ByteScan.Json.Reader
import ByteScan.Json.Writer
import ByteScan.RuleSet.Declaration

/-!
# Rule declarations as JSON

Declarations are read from JSON and written back. A condition that stands alone is written as its
name, one with a single operand as an object from its name to the operand, and one with several
operands as an object from its name to their array.
-/

namespace ByteScan

open Json

namespace Comparison

def name : Comparison → String
  | .equal => "equal"
  | .notEqual => "not_equal"
  | .lessThan => "less_than"
  | .lessEqual => "less_equal"
  | .greaterThan => "greater_than"
  | .greaterEqual => "greater_equal"

def ofName? (name : String) : Option Comparison :=
  [equal, notEqual, lessThan, lessEqual, greaterThan, greaterEqual].find? fun comparison =>
    comparison.name = name

def ofJson? (json : Json) : Option Comparison := do
  let (name, content) ← json.asCase?
  noContent? content
  ofName? name

end Comparison

namespace Condition

def caseJson (name : String) (content : Json) : Json := .object [(some name, content)]

def toJson : Condition → Json
  | .truth value => .string (if value then "true" else "false")
  | .integer value =>
    caseJson "integer" (if value < 0 then .negative value.toInt else .natural value.toInt.toNat)
  | .float value => caseJson "float" (.float value)
  | .text value => caseJson "str" (.string value)
  | .found name => caseJson "string_match" (.string name)
  | .count name => caseJson "string_count" (.string name)
  | .foundAt name address => caseJson "string_at" (.array [.string name, address.toJson])
  | .foundIn name low high =>
    caseJson "string_in" (.array [.string name, low.toJson, high.toJson])
  | .anyOfThem => .string "any_of_them"
  | .allOfThem => .string "all_of_them"
  | .ofThem minimum => caseJson "of_them" (.natural minimum.toNat)
  | .fileSize => .string "filesize"
  | .entryPoint => .string "entrypoint"
  | .rule name => caseJson "rule" (.string name)
  | .external name => caseJson "external" (.string name)
  | .not inner => caseJson "not" inner.toJson
  | .and left right => caseJson "and" (.array [left.toJson, right.toJson])
  | .or left right => caseJson "or" (.array [left.toJson, right.toJson])
  | .compare comparison left right =>
    caseJson "cmp" (.array [.string comparison.name, left.toJson, right.toJson])
  | .contains whole part => caseJson "contains" (.array [whole.toJson, part.toJson])

def ofName? : String → Option Condition
  | "true" => some (.truth true)
  | "false" => some (.truth false)
  | "any_of_them" => some .anyOfThem
  | "all_of_them" => some .allOfThem
  | "filesize" => some .fileSize
  | "entrypoint" => some .entryPoint
  | _ => none

def ofOperand? (name : String) (operand : Json) : Option Condition :=
  match name with
  | "integer" => operand.asInteger?.map .integer
  | "float" => operand.asFloat?.map .float
  | "str" => operand.asString?.map .text
  | "string_match" => operand.asString?.map .found
  | "string_count" => operand.asString?.map .count
  | "of_them" => (operand.asNatural? (UInt32.size - 1)).map fun minimum => .ofThem (UInt32.ofNat minimum)
  | "rule" => operand.asString?.map .rule
  | "external" => operand.asString?.map .external
  | _ => none

/-- Reads a condition, in which containers may be nested `levels` deep. -/
def ofJson? : Nat → Json → Option Condition
  | _, .string name => ofName? name
  | levels + 1, .object [(some name, .array operands)] =>
    match levels with
    | 0 => none
    | levels + 1 =>
      match name, operands with
      | "string_at", [subject, address] => do
        some (.foundAt (← subject.asString?) (← ofJson? levels address))
      | "string_in", [subject, low, high] => do
        some (.foundIn (← subject.asString?) (← ofJson? levels low) (← ofJson? levels high))
      | "and", [left, right] => do some (.and (← ofJson? levels left) (← ofJson? levels right))
      | "or", [left, right] => do some (.or (← ofJson? levels left) (← ofJson? levels right))
      | "cmp", [comparison, left, right] => do
        let comparison ← descendComparison? levels comparison
        some (.compare comparison (← ofJson? levels left) (← ofJson? levels right))
      | "contains", [whole, part] => do
        some (.contains (← ofJson? levels whole) (← ofJson? levels part))
      | _, _ => none
  | levels + 1, .object [(some name, operand)] =>
    if name = "not" then (ofJson? levels operand).map .not
    else if operand matches .null then ofName? name
    else ofOperand? name operand
  | _, _ => none
where
  /-- Reads a comparison, which takes a level where it is written as an object. -/
  descendComparison? (levels : Nat) (json : Json) : Option Comparison :=
    match json, levels with
    | .object _, 0 => none
    | _, _ => Comparison.ofJson? json

end Condition

namespace PatternDecl

def toJson : PatternDecl → Json
  | .text written => Condition.caseJson "text" (.string written)
  | .hex source => Condition.caseJson "hex" (.string source)
  | .regex source => Condition.caseJson "regex" (.string source)

def ofJson? (levels : Nat) (json : Json) : Option PatternDecl :=
  match json.asCase? with
  | some (name, some content) => descend levels fun _ => do
    let source ← content.asString?
    match name with
    | "text" => some (.text source)
    | "hex" => some (.hex source)
    | "regex" => some (.regex source)
    | _ => none
  | _ => none

end PatternDecl

namespace Modifiers

def toJson (modifiers : Modifiers) : Json :=
  .object [(some "nocase", .bool modifiers.nocase), (some "ascii", .bool modifiers.ascii),
    (some "wide", .bool modifiers.wide), (some "fullword", .bool modifiers.fullword)]

/-- Reads modifiers; those that are not given do not apply. -/
def ofJson? (levels : Nat) (json : Json) : Option Modifiers := descend levels fun _ => do
  match ← json.asRecord? ["nocase", "ascii", "wide", "fullword"] with
  | [nocase, ascii, wide, fullword] =>
    some ⟨← optional false asBool? nocase, ← optional false asBool? ascii,
      ← optional false asBool? wide, ← optional false asBool? fullword⟩
  | _ => none

end Modifiers

namespace StringDecl

def toJson (decl : StringDecl) : Json :=
  .object [(some "id", .string decl.identifier), (some "pattern", decl.pattern.toJson),
    (some "modifiers", decl.modifiers.toJson)]

def ofJson? (levels : Nat) (json : Json) : Option StringDecl := descend levels fun levels => do
  match ← json.asRecord? ["id", "pattern", "modifiers"] with
  | [identifier, pattern, modifiers] =>
    some ⟨← required asString? identifier, ← required (PatternDecl.ofJson? levels) pattern,
      ← optional {} (Modifiers.ofJson? levels) modifiers⟩
  | _ => none

end StringDecl

namespace RuleDecl

def toJson (decl : RuleDecl) : Json :=
  let space := decl.space.toList.map fun space => (some "namespace", Json.string space)
  .object ((some "name", .string decl.name) :: space ++
    [(some "private", .bool decl.isPrivate), (some "global", .bool decl.isGlobal),
      (some "tags", .array (decl.tags.map .string)),
      (some "strings", .array (decl.strings.map StringDecl.toJson)),
      (some "condition", decl.condition.toJson)])

def optionalName? : Json → Option (Option String)
  | .null => some none
  | json => json.asString?.map some

def ofJson? (levels : Nat) (json : Json) : Option RuleDecl := descend levels fun levels => do
  let names := ["name", "namespace", "private", "global", "tags", "strings", "condition"]
  match ← json.asRecord? names with
  | [name, space, isPrivate, isGlobal, tags, strings, condition] =>
    some {
      name := ← required asString? name
      space := ← optional none optionalName? space
      isPrivate := ← optional false asBool? isPrivate
      isGlobal := ← optional false asBool? isGlobal
      tags := ← optional [] (asList? levels fun _ => asString?) tags
      strings := ← optional [] (asList? levels StringDecl.ofJson?) strings
      condition := ← required (Condition.ofJson? levels) condition }
  | _ => none

def ofText? (text : String) : Option RuleDecl := do
  ofJson? depthLimit (← Json.ofText? text)

def text (decl : RuleDecl) : String := decl.toJson.text

end RuleDecl

namespace ExternalDefault

def toJson : ExternalDefault → Json
  | .boolean value => .bool value
  | .integer value => if value < 0 then .negative value.toInt else .natural value.toInt.toNat
  | .float value => .float value
  | .text value => .string value

/-- Reads a default: an integer if it fits, else a number. -/
def ofJson? (json : Json) : Option ExternalDefault :=
  match json with
  | .bool value => some (.boolean value)
  | .string value => some (.text value)
  | _ =>
    match json.asInteger? with
    | some value => some (.integer value)
    | none => json.asFloat?.map .float

end ExternalDefault

namespace ExternalDecl

def toJson (decl : ExternalDecl) : Json :=
  .object [(some "name", .string decl.name), (some "value", decl.value.toJson)]

def ofJson? (levels : Nat) (json : Json) : Option ExternalDecl := descend levels fun _ => do
  match ← json.asRecord? ["name", "value"] with
  | [name, value] =>
    some ⟨← required asString? name, ← required ExternalDefault.ofJson? value⟩
  | _ => none

end ExternalDecl

namespace RuleSetDecl

def toJson (decl : RuleSetDecl) : Json :=
  .object [(some "externals", .array (decl.externals.map ExternalDecl.toJson)),
    (some "rules", .array (decl.rules.map RuleDecl.toJson))]

def ofJson? (levels : Nat) (json : Json) : Option RuleSetDecl := descend levels fun levels => do
  match ← json.asRecord? ["externals", "rules"] with
  | [externals, rules] =>
    some ⟨← optional [] (asList? levels ExternalDecl.ofJson?) externals,
      ← required (asList? levels RuleDecl.ofJson?) rules⟩
  | _ => none

def ofText? (text : String) : Option RuleSetDecl := do
  ofJson? depthLimit (← Json.ofText? text)

def text (decl : RuleSetDecl) : String := decl.toJson.text

end RuleSetDecl

end ByteScan
