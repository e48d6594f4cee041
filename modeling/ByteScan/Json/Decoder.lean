import ByteScan.Json.Basic

/-!
# Meaning of JSON values

A decoder gives a value its meaning or refuses it. Containers that are looked into may be nested
at most 127 deep; what is ignored may be nested as deep as it likes. So each decoder of a container
is given how many levels are left, and `descend` takes one.

A record may be written as an object, whose unknown entries are ignored, or as an array of its
fields in their order, and absent fields at the end. A choice is written as the name of the case,
or as an object with that name as its only key and the content of the case as value.
-/

namespace ByteScan.Json

/-- How many containers may enclose a part of the text that is looked into. -/
def depthLimit : Nat := 127

def descend (levels : Nat) (look : Nat → Option α) : Option α :=
  match levels with
  | 0 => none
  | left + 1 => look left

def asBool? : Json → Option Bool
  | .bool value => some value
  | _ => none

def asString? : Json → Option String
  | .string value => some value
  | _ => none

def asNatural? (limit : Nat) : Json → Option Nat
  | .natural value => if value ≤ limit then some value else none
  | _ => none

def asInteger? : Json → Option Int64
  | .natural value => if value < 0x8000000000000000 then some (Int64.ofNat value) else none
  | .negative value => some (Int64.ofInt value)
  | _ => none

def asFloat? : Json → Option Binary64
  | .natural value => some (Binary64.ofInt value)
  | .negative value => some (Binary64.ofInt value)
  | .float value => some value
  | _ => none

def decodeAll? (decode : Json → Option α) : List Json → Option (List α)
  | [] => some []
  | item :: items => do
    let first ← decode item
    let rest ← decodeAll? decode items
    some (first :: rest)

def asList? (levels : Nat) (decode : Nat → Json → Option α) : Json → Option (List α)
  | .array items => descend levels fun left => decodeAll? (decode left) items
  | _ => none

/-- The value of the one entry with a key, absent if there is no such entry; fails if there are
several. -/
def uniqueValue? (name : String) : List (Option String × Json) → Option (Option Json)
  | [] => some none
  | (key, value) :: entries =>
    match uniqueValue? name entries with
    | none => none
    | some found =>
      if key = some name then
        match found with
        | none => some (some value)
        | some _ => none
      else some found

/-- Items given to fields in order; fails if there are more items than fields. -/
def fillFields? : Nat → List Json → Option (List (Option Json))
  | 0, [] => some []
  | 0, _ :: _ => none
  | count + 1, [] => (fillFields? count []).map (none :: ·)
  | count + 1, item :: items => (fillFields? count items).map (some item :: ·)

/-- The fields of a record in the order of their names, each absent if the text does not give it. -/
def asRecord? (names : List String) : Json → Option (List (Option Json))
  | .object entries =>
    if entries.any fun entry => entry.1.isNone then none
    else names.mapM fun name => uniqueValue? name entries
  | .array items => fillFields? names.length items
  | _ => none

def required (decode : Json → Option α) : Option Json → Option α
  | some value => decode value
  | none => none

def optional (default : α) (decode : Json → Option α) : Option Json → Option α
  | some value => decode value
  | none => some default

/-- The name of a case of a choice, and its content where the case is written with one. -/
def asCase? : Json → Option (String × Option Json)
  | .string name => some (name, none)
  | .object [(some name, value)] => some (name, some value)
  | _ => none

def noContent? : Option Json → Option Unit
  | none | some .null => some ()
  | _ => none

def asEntries? (levels : Nat) (decode : Json → Option α) : Json → Option (List (String × α))
  | .object entries => descend levels fun _ =>
    entries.mapM fun entry => do
      let key ← entry.1
      let value ← decode entry.2
      some (key, value)
  | _ => none

end ByteScan.Json
