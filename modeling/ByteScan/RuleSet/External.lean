import ByteScan.Binary64.Reading
import ByteScan.Binary64.Writing
import ByteScan.Error
import ByteScan.Text.Utf8

/-!
# External variables

A rule set may speak of variables that are defined from outside. Each has a default that is compiled
in, and may be given another value of any kind afterwards; `redefine` changes the first variable of
a name and nothing else.
-/

namespace ByteScan

inductive ExternalValue where
  | integer (value : Int64)
  | boolean (value : Bool)
  | float (value : Binary64)
  /-- The bytes of a text; `owned` if it was defined after compiling. -/
  | string (bytes : List UInt8) (owned : Bool)
  deriving DecidableEq, Repr, Inhabited

namespace ExternalValue

def kind : ExternalValue → String
  | .integer _ => "integer"
  | .boolean _ => "boolean"
  | .float _ => "float"
  | .string _ _ => "string"

/-- A value as text; a string stands in quotes, with a replacement for what is not UTF-8. -/
def display : ExternalValue → String
  | .integer value => toString value.toInt
  | .boolean value => if value then "true" else "false"
  | .float value => value.text
  | .string bytes _ => "\"" ++ String.ofList (Utf8.decode bytes) ++ "\""

def ofText (text : String) : ExternalValue := .string text.toUTF8.toList true

/-- The value of the same kind that a text stands for. -/
def reread? (current : ExternalValue) (text : String) : Option ExternalValue :=
  match current with
  | .integer _ =>
    (Text.readSigned 10 64 text).toOption.map fun value => .integer (Int64.ofInt value)
  | .boolean _ =>
    if text = "true" then some (.boolean true)
    else if text = "false" then some (.boolean false)
    else none
  | .float _ => (Binary64.ofText? text).map .float
  | .string _ _ => some (.ofText text)

end ExternalValue

structure External where
  identifier : String
  value : ExternalValue
  deriving DecidableEq, Repr, Inhabited

namespace External

/-- Gives the first variable of a name the value that `change` makes of its present one. -/
def redefineWith (name : String) (change : ExternalValue → Except Error ExternalValue) :
    List External → Except Error (List External)
  | [] => .error (.invalidArgument (.unknownExternal name))
  | external :: externals =>
    if external.identifier = name then
      match change external.value with
      | .ok value => .ok ({ external with value } :: externals)
      | .error error => .error error
    else
      match redefineWith name change externals with
      | .ok rest => .ok (external :: rest)
      | .error error => .error error

def redefine (name : String) (value : ExternalValue) (externals : List External) :
    Except Error (List External) :=
  redefineWith name (fun _ => .ok value) externals

def redefineFromText (name text : String) (externals : List External) :
    Except Error (List External) :=
  redefineWith name
    (fun current =>
      match current.reread? text with
      | some value => .ok value
      | none => .error (.invalidArgument (.invalidValue text current.kind name)))
    externals

end External

end ByteScan
