import ByteScan.Json.Number
import ByteScan.Byte

/-!
# Reading JSON text

`Json.ofText?` reads one value with nothing but blanks around it. Every function below takes the
characters that are left and gives back those that follow what it read. Each step of the nesting
takes at least one character, so the length of the text bounds the nesting.
-/

namespace ByteScan.Json

def skipBlank : List Char → List Char
  | ' ' :: rest | '\n' :: rest | '\t' :: rest | '\r' :: rest => skipBlank rest
  | rest => rest

def spanDigits (cs : List Char) : List Char × List Char := cs.span Char.isDigit

/-- The digits before the point: a lone zero, or digits that a zero does not lead. -/
def readWhole? (cs : List Char) : Option (List Char × List Char) :=
  match spanDigits cs with
  | ([], _) => none
  | ('0' :: _ :: _, _) => none
  | digits => some digits

def readFraction? : List Char → Option (Option (List Char) × List Char)
  | '.' :: rest =>
    match spanDigits rest with
    | ([], _) => none
    | (digits, rest) => some (some digits, rest)
  | rest => some (none, rest)

def readExponent? : List Char → Option (Option (Bool × List Char) × List Char)
  | 'e' :: rest | 'E' :: rest =>
    let (downward, rest) := match rest with
      | '-' :: more => (true, more)
      | '+' :: more => (false, more)
      | more => (false, more)
    match spanDigits rest with
    | ([], _) => none
    | (digits, rest) => some (some (downward, digits), rest)
  | rest => some (none, rest)

def readNumber? (negative : Bool) (cs : List Char) : Option (Json × List Char) := do
  let (whole, rest) ← readWhole? cs
  let (fraction, rest) ← readFraction? rest
  let (exponent, rest) ← readExponent? rest
  some (ofNumber negative whole fraction exponent, rest)

def readHex4? : List Char → Option (Nat × List Char)
  | a :: b :: c :: d :: rest => do
    let a ← Byte.ofHexDigit? a
    let b ← Byte.ofHexDigit? b
    let c ← Byte.ofHexDigit? c
    let d ← Byte.ofHexDigit? d
    some (((a * 16 + b) * 16 + c) * 16 + d, rest)
  | _ => none

def simpleEscape? : Char → Option Char
  | '"' => some '"'
  | '\\' => some '\\'
  | '/' => some '/'
  | 'b' => some '\x08'
  | 'f' => some '\x0c'
  | 'n' => some '\n'
  | 'r' => some '\r'
  | 't' => some '\t'
  | _ => none

def isHighSurrogate (unit : Nat) : Bool := 0xd800 ≤ unit && unit ≤ 0xdbff

def isLowSurrogate (unit : Nat) : Bool := 0xdc00 ≤ unit && unit ≤ 0xdfff

/-- The rest of a string after its opening quote, up to and with the closing quote: whole
characters, and the UTF-16 units of escapes. What was read before stands reversed in front. -/
def readUnits? : Nat → List (Char ⊕ Nat) → List Char → Option (List (Char ⊕ Nat) × List Char)
  | 0, _, _ => none
  | _, _, [] => none
  | _, units, '"' :: rest => some (units.reverse, rest)
  | fuel + 1, units, '\\' :: 'u' :: rest =>
    match readHex4? rest with
    | none => none
    | some (unit, rest) => readUnits? fuel (.inr unit :: units) rest
  | fuel + 1, units, '\\' :: c :: rest =>
    match simpleEscape? c with
    | none => none
    | some c => readUnits? fuel (.inl c :: units) rest
  | fuel + 1, units, c :: rest =>
    if c.toNat < 0x20 then none else readUnits? fuel (.inl c :: units) rest

/-- Joins surrogate pairs after characters that stand reversed in front; nothing if a surrogate
stands alone. -/
def joinUnits? : List Char → List (Char ⊕ Nat) → Option (List Char)
  | joined, [] => some joined.reverse
  | joined, .inl c :: rest => joinUnits? (c :: joined) rest
  | joined, .inr high :: .inr low :: rest =>
    if isHighSurrogate high then
      if isLowSurrogate low then
        let c := Char.ofNat ((high - 0xd800) * 0x400 + (low - 0xdc00) + 0x10000)
        joinUnits? (c :: joined) rest
      else none
    else if isLowSurrogate high then none
    else joinUnits? (Char.ofNat high :: joined) (.inr low :: rest)
  | joined, .inr unit :: rest =>
    if isHighSurrogate unit || isLowSurrogate unit then none
    else joinUnits? (Char.ofNat unit :: joined) rest

/-- The rest of a string after its opening quote. The string itself is absent if a surrogate in it
stands alone. -/
def readString? (cs : List Char) : Option (Option String × List Char) := do
  let (units, rest) ← readUnits? cs.length [] cs
  some ((joinUnits? [] units).map String.ofList, rest)

mutual

def readValue? : Nat → List Char → Option (Json × List Char)
  | 0, _ => none
  | fuel + 1, cs =>
    match skipBlank cs with
    | 'n' :: 'u' :: 'l' :: 'l' :: rest => some (.null, rest)
    | 't' :: 'r' :: 'u' :: 'e' :: rest => some (.bool true, rest)
    | 'f' :: 'a' :: 'l' :: 's' :: 'e' :: rest => some (.bool false, rest)
    | '"' :: rest =>
      match readString? rest with
      | none => none
      | some (some value, rest) => some (.string value, rest)
      | some (none, rest) => some (.unpaired, rest)
    | '-' :: rest => readNumber? true rest
    | '[' :: rest =>
      match skipBlank rest with
      | ']' :: rest => some (.array [], rest)
      | rest =>
        match readItems? fuel rest with
        | none => none
        | some (items, rest) => some (.array items, rest)
    | '{' :: rest =>
      match skipBlank rest with
      | '}' :: rest => some (.object [], rest)
      | rest =>
        match readEntries? fuel rest with
        | none => none
        | some (entries, rest) => some (.object entries, rest)
    | rest => readNumber? false rest

def readItems? : Nat → List Char → Option (List Json × List Char)
  | 0, _ => none
  | fuel + 1, cs =>
    match readValue? fuel cs with
    | none => none
    | some (item, rest) =>
      match skipBlank rest with
      | ']' :: rest => some ([item], rest)
      | ',' :: rest =>
        match readItems? fuel rest with
        | none => none
        | some (items, rest) => some (item :: items, rest)
      | _ => none

def readEntries? : Nat → List Char → Option (List (Option String × Json) × List Char)
  | 0, _ => none
  | fuel + 1, cs =>
    match skipBlank cs with
    | '"' :: rest =>
      match readString? rest with
      | none => none
      | some (key, rest) =>
        match skipBlank rest with
        | ':' :: rest =>
          match readValue? fuel rest with
          | none => none
          | some (value, rest) =>
            match skipBlank rest with
            | '}' :: rest => some ([(key, value)], rest)
            | ',' :: rest =>
              match readEntries? fuel rest with
              | none => none
              | some (entries, rest) => some ((key, value) :: entries, rest)
            | _ => none
        | _ => none
    | _ => none

end

/-- The value that a text holds, if it holds exactly one. -/
def ofText? (text : String) : Option Json :=
  let cs := text.toList
  match readValue? (cs.length + 1) cs with
  | some (value, rest) => if (skipBlank rest).isEmpty then some value else none
  | none => none

end ByteScan.Json
