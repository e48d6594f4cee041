import ByteScan.Regex.Syntax
import ByteScan.Text.Property
import ByteScan.Text.Integer

/-!
# Parsing regular expressions

A parser takes the characters that are left, with what has been decided about them so far, and
gives back a part of the syntax and what follows it. Every step takes at least one character, so
the length of the text bounds the nesting of groups and classes.
-/

namespace ByteScan.Regex

/-- What is left of an expression, and what the part before it has decided. -/
structure Cursor where
  rest : List Char
  verbose : Bool
  names : List String
  deriving Repr

namespace Cursor

def afterComment : List Char → List Char
  | [] => []
  | '\n' :: rest => rest
  | _ :: rest => afterComment rest

theorem length_afterComment (cs : List Char) : (afterComment cs).length ≤ cs.length := by
  fun_induction afterComment cs <;> simp only [List.length_nil, List.length_cons] <;> omega

def afterBlanks : List Char → List Char
  | [] => []
  | c :: rest =>
    if Text.isBlank c then afterBlanks rest
    else if c = '#' then afterBlanks (afterComment rest)
    else c :: rest
termination_by cs => cs.length
decreasing_by
  · simp
  · have := length_afterComment rest; simp only [List.length_cons]; omega

def skipSpace (cursor : Cursor) : Cursor :=
  if cursor.verbose then { cursor with rest := afterBlanks cursor.rest } else cursor

def moveTo (cursor : Cursor) (rest : List Char) : Cursor := { cursor with rest }

def bumpSpace (cursor : Cursor) : Cursor := (cursor.moveTo cursor.rest.tail).skipSpace

/-- The character after the current one, with ignored text left out. Inside a comment that is its
first character that is not blank. -/
def peekSpace? (cursor : Cursor) : Option Char :=
  if cursor.verbose then
    match cursor.rest.tail.dropWhile Text.isBlank with
    | '#' :: rest =>
      match rest.dropWhile fun c => Text.isBlank c && c ≠ '\n' with
      | '\n' :: rest => (rest.dropWhile Text.isBlank).head?
      | rest => rest.head?
    | rest => rest.head?
  else cursor.rest.tail.head?

end Cursor

def isNameChar (first : Bool) (c : Char) : Bool :=
  if first then c == '_' || Text.Property.alphabetic.contains c.toNat
  else "_.[]".toList.contains c || Text.Property.alphanumeric.contains c.toNat

def isMeta (c : Char) : Bool := "\\.+*?()|[]{}^$#&-~".toList.contains c

def isEscapable (c : Char) : Bool :=
  c.toNat < 128 && !c.isAlphanum && c != '<' && c != '>'

def flagOf? : Char → Option Flag
  | 'i' => some .caseless
  | 'm' => some .multiLine
  | 's' => some .dotAll
  | 'U' => some .swapGreed
  | 'u' => some .unicode
  | 'R' => some .crlf
  | 'x' => some .verbose
  | _ => none

/-- Flags up to and with the colon or parenthesis that ends them. The second part of the result is
whether a parenthesis did. -/
def readFlags : List Char → (negated : Bool) → (last : Bool) → Flags →
    Except Fault (Flags × Bool × List Char)
  | [], _, _, _ => .error .flags
  | c :: rest, negated, last, flags =>
    if c = ':' ∨ c = ')' then
      if last then .error .flags else .ok (flags.reverse, c = ')', rest)
    else if c = '-' then
      if negated then .error .flags else readFlags rest true true flags
    else
      match flagOf? c with
      | none => .error .flags
      | some flag =>
        if flags.any fun entry => entry.1 = flag then .error .flags
        else readFlags rest negated false ((flag, !negated) :: flags)

def readGroupName (cursor : Cursor) : Except Fault (String × Cursor) :=
  let (name, rest) := cursor.rest.span (· ≠ '>')
  match rest, name with
  | [], _ => .error .groupName
  | _, [] => .error .groupName
  | _ :: rest, first :: more =>
    let text := String.ofList name
    if !isNameChar true first || !more.all (isNameChar false) || cursor.names.contains text then
      .error .groupName
    else .ok (text, { cursor with rest, names := text :: cursor.names })

inductive Opening where
  /-- It is no group, but flags for the rest of the group around it. -/
  | flags (flags : Flags)
  | group (capturing : Bool) (flags : Flags)

def readOpening (start : Cursor) : Except Fault (Opening × Cursor) :=
  let cursor := start.skipSpace
  match cursor.rest with
  | '?' :: '=' :: _ | '?' :: '!' :: _ | '?' :: '<' :: '=' :: _ | '?' :: '<' :: '!' :: _ =>
    .error .lookAround
  | '?' :: 'P' :: '<' :: rest | '?' :: '<' :: rest =>
    (readGroupName (cursor.moveTo rest)).map fun named => (.group true [], named.2)
  | ['?'] => .error .groupUnclosed
  | '?' :: rest =>
    match readFlags rest false false [] with
    | .error fault => .error fault
    | .ok (flags, closed, rest) =>
      if closed then
        if flags.isEmpty then .error .repetitionMissing else .ok (.flags flags, cursor.moveTo rest)
      else .ok (.group false flags, cursor.moveTo rest)
  | _ => .ok (.group true [], cursor)

def readCount (start : Cursor) : Except Fault (Option Nat × Cursor) :=
  let isDigitAt (cursor : Cursor) : Bool := (cursor.rest.head?.map Char.isDigit).getD false
  let rec digits (fuel : Nat) (found : List Char) (cursor : Cursor) : List Char × Cursor :=
    match fuel with
    | 0 => (found.reverse, cursor)
    | fuel + 1 =>
      match cursor.rest with
      | c :: _ => if c.isDigit then digits fuel (c :: found) cursor.bumpSpace
        else (found.reverse, cursor)
      | [] => (found.reverse, cursor)
  let begun := start.moveTo (start.rest.dropWhile Text.isBlank)
  let (found, cursor) :=
    if isDigitAt begun then digits begun.rest.length [] begun else ([], begun)
  let ended := (cursor.moveTo (cursor.rest.dropWhile Text.isBlank))
  let ended := if ended.rest.length < cursor.rest.length then ended.skipSpace else ended
  match found with
  | [] => .ok (none, ended)
  | _ =>
    let count := found.foldl (fun total c => total * 10 + (c.toNat - 0x30)) 0
    if count < UInt32.size then .ok (some count, ended) else .error .repetitionBounds

def readBounds (start : Cursor) : Except Fault ((Nat × Option Nat) × Cursor) := do
  let (least, cursor) ← readCount start
  match cursor.rest with
  | ',' :: _ =>
    let cursor := cursor.bumpSpace
    match least with
    | none => .error .repetitionBounds
    | some least =>
      match cursor.rest with
      | '}' :: rest => .ok ((least, none), cursor.moveTo rest)
      | _ =>
        let (most, cursor) ← readCount cursor
        match most, cursor.rest with
        | some most, '}' :: rest =>
          if least ≤ most then .ok ((least, some most), cursor.moveTo rest)
          else .error .repetitionBounds
        | _, _ => .error .repetitionBounds
  | '}' :: rest =>
    match least with
    | some count => .ok ((count, some count), cursor.moveTo rest)
    | none => .error .repetitionBounds
  | _ => .error .repetitionBounds

inductive Primitive where
  | literal (literal : Literal)
  | anchor (anchor : Anchor)
  | dot
  | escape (kind : EscapeClass) (negated : Bool)
  | property (name : String) (negated : Bool)

def charOfHex? (digits : List Char) : Option Char :=
  let code := digits.foldl (fun total c => total * 16 + (Byte.ofHexDigit? c).getD 0) 0
  if code < 0xd800 ∨ (0xdfff < code ∧ code < 0x110000) then some (Char.ofNat code) else none

def readHexFixed : Nat → List Char → Cursor → Except Fault (List Char × Cursor)
  | 0, found, cursor => .ok (found.reverse, cursor)
  | count + 1, found, cursor =>
    match cursor.rest with
    | c :: _ =>
      if (Byte.ofHexDigit? c).isSome then readHexFixed count (c :: found) cursor.bumpSpace
      else .error .escape
    | [] => .error .escape

def readHexBrace : Nat → List Char → Cursor → Except Fault (List Char × Cursor)
  | 0, _, _ => .error .escape
  | fuel + 1, found, cursor =>
    match cursor.rest with
    | '}' :: _ => .ok (found.reverse, cursor.bumpSpace)
    | c :: _ =>
      if (Byte.ofHexDigit? c).isSome then readHexBrace fuel (c :: found) cursor.bumpSpace
      else .error .escape
    | [] => .error .escape

def readHex (letter : Char) (start : Cursor) : Except Fault (Primitive × Cursor) := do
  let cursor := start.bumpSpace
  match cursor.rest with
  | [] => .error .escape
  | '{' :: _ =>
    let (found, cursor) ← readHexBrace (cursor.rest.length + 1) [] cursor.bumpSpace
    match found, charOfHex? found with
    | _ :: _, some c => .ok (.literal ⟨c, false⟩, cursor)
    | _, _ => .error .escape
  | _ =>
    let count := if letter = 'x' then 2 else if letter = 'u' then 4 else 8
    let (found, cursor) ← readHexFixed count [] cursor
    match charOfHex? found with
    | some c => .ok (.literal ⟨c, letter = 'x'⟩, cursor)
    | none => .error .escape

def readBraced : Nat → List Char → Cursor → Except Fault (List Char × Cursor)
  | 0, _, _ => .error .escape
  | fuel + 1, found, cursor =>
    match cursor.rest with
    | '}' :: rest => .ok (found.reverse, cursor.moveTo rest)
    | c :: _ => readBraced fuel (c :: found) cursor.bumpSpace
    | [] => .error .escape

def readProperty (negated : Bool) (start : Cursor) : Except Fault (Primitive × Cursor) := do
  let cursor := start.bumpSpace
  match cursor.rest with
  | [] => .error .escape
  | '{' :: _ =>
    let (name, cursor) ← readBraced (cursor.rest.length + 1) [] cursor.bumpSpace
    .ok (.property (String.ofList name) negated, cursor)
  | '\\' :: _ => .error .escape
  | c :: _ => .ok (.property (String.singleton c) negated, cursor.bumpSpace)

def isBoundaryChar (c : Char) : Bool := c.isAlpha || c == '-'

def readBoundaryName : Nat → List Char → Cursor → List Char × Cursor
  | 0, found, cursor => (found.reverse, cursor)
  | fuel + 1, found, cursor =>
    match cursor.rest with
    | c :: _ =>
      if isBoundaryChar c then readBoundaryName fuel (c :: found) cursor.bumpSpace
      else (found.reverse, cursor)
    | [] => (found.reverse, cursor)

/-- What may follow `\b`: a kind of boundary in braces, unless the braces bound a repetition. -/
def readBoundary (start : Cursor) : Except Fault (Primitive × Cursor) :=
  match start.rest with
  | '{' :: _ =>
    let cursor := start.bumpSpace
    match cursor.rest with
    | [] => .error .escape
    | c :: _ =>
      if !isBoundaryChar c then .ok (.anchor .wordBoundary, start)
      else
        let (name, cursor) := readBoundaryName (cursor.rest.length + 1) [] cursor
        match cursor.rest with
        | '}' :: rest =>
          match String.ofList name with
          | "start" => .ok (.anchor .wordStart, cursor.moveTo rest)
          | "end" => .ok (.anchor .wordEnd, cursor.moveTo rest)
          | "start-half" => .ok (.anchor .wordStartHalf, cursor.moveTo rest)
          | "end-half" => .ok (.anchor .wordEndHalf, cursor.moveTo rest)
          | _ => .error .escape
        | _ => .error .escape
  | _ => .ok (.anchor .wordBoundary, start)

def readEscape (start : Cursor) : Except Fault (Primitive × Cursor) :=
  match start.rest with
  | [] => .error .escape
  | c :: rest =>
    let next := start.moveTo rest
    let literal (c : Char) : Except Fault (Primitive × Cursor) := .ok (.literal ⟨c, false⟩, next)
    if c.isDigit then .error .backreference
    else if c = 'x' ∨ c = 'u' ∨ c = 'U' then readHex c start
    else if c = 'p' then readProperty false start
    else if c = 'P' then readProperty true start
    else if c = 'd' then .ok (.escape .digit false, next)
    else if c = 's' then .ok (.escape .space false, next)
    else if c = 'w' then .ok (.escape .word false, next)
    else if c = 'D' then .ok (.escape .digit true, next)
    else if c = 'S' then .ok (.escape .space true, next)
    else if c = 'W' then .ok (.escape .word true, next)
    else if isMeta c || isEscapable c then literal c
    else
      match c with
      | 'a' => literal '\x07'
      | 'f' => literal '\x0c'
      | 't' => literal '\t'
      | 'n' => literal '\n'
      | 'r' => literal '\r'
      | 'v' => literal '\x0b'
      | 'A' => .ok (.anchor .startText, next)
      | 'z' => .ok (.anchor .endText, next)
      | 'b' => readBoundary next
      | 'B' => .ok (.anchor .notWordBoundary, next)
      | '<' => .ok (.anchor .wordStart, next)
      | '>' => .ok (.anchor .wordEnd, next)
      | _ => .error .escape

def readPrimitive (start : Cursor) : Except Fault (Primitive × Cursor) :=
  match start.rest with
  | [] => .error .escape
  | '\\' :: rest => readEscape (start.moveTo rest)
  | '.' :: rest => .ok (.dot, start.moveTo rest)
  | '^' :: rest => .ok (.anchor .startLine, start.moveTo rest)
  | '$' :: rest => .ok (.anchor .endLine, start.moveTo rest)
  | c :: rest => .ok (.literal ⟨c, false⟩, start.moveTo rest)

def Primitive.toSyntax : Primitive → Syntax
  | .literal found => .literal found
  | .anchor found => .anchor found
  | .dot => .dot
  | .escape kind negated => .escape kind negated
  | .property name negated => .property name negated

def Primitive.toClass : Primitive → Except Fault ClassSyntax
  | .literal found => .ok (.literal found)
  | .escape kind negated => .ok (.escape kind negated)
  | .property name negated => .ok (.property name negated)
  | .anchor _ | .dot => .error .classEscape

def Primitive.toRangeEnd : Primitive → Except Fault Literal
  | .literal found => .ok found
  | _ => .error .classRange

def readClassItem (start : Cursor) : Except Fault (Primitive × Cursor) :=
  match start.rest with
  | [] => .error .classUnclosed
  | '\\' :: rest => readEscape (start.moveTo rest)
  | c :: rest => .ok (.literal ⟨c, false⟩, start.moveTo rest)

def readClassRange (start : Cursor) : Except Fault (ClassSyntax × Cursor) := do
  let (first, cursor) ← readClassItem start
  let cursor := cursor.skipSpace
  match cursor.rest with
  | [] => .error .classUnclosed
  | c :: _ =>
    if c ≠ '-' ∨ cursor.peekSpace? = some ']' ∨ cursor.peekSpace? = some '-' then
      let part ← first.toClass
      .ok (part, cursor)
    else
      let cursor := cursor.bumpSpace
      let (last, cursor) ← readClassItem cursor
      let low ← first.toRangeEnd
      let high ← last.toRangeEnd
      if low.char ≤ high.char then .ok (.range low high, cursor) else .error .classRange

def namedClass? : String → Option NamedClass
  | "alnum" => some .alnum
  | "alpha" => some .alpha
  | "ascii" => some .ascii
  | "blank" => some .blank
  | "cntrl" => some .cntrl
  | "digit" => some .digit
  | "graph" => some .graph
  | "lower" => some .lower
  | "print" => some .print
  | "punct" => some .punct
  | "space" => some .space
  | "upper" => some .upper
  | "word" => some .word
  | "xdigit" => some .xdigit
  | _ => none

def readNamedClass? : List Char → Option (ClassSyntax × List Char)
  | ':' :: rest =>
    let (negated, rest) := match rest with
      | '^' :: more => (true, more)
      | more => (false, more)
    match rest.span (· ≠ ':') with
    | (name, ':' :: ']' :: rest) =>
      (namedClass? (String.ofList name)).map fun kind => (.named kind negated, rest)
    | _ => none
  | _ => none

def readLeadingDashes : Nat → List ClassSyntax → Cursor → List ClassSyntax × Cursor
  | 0, parts, cursor => (parts, cursor)
  | fuel + 1, parts, cursor =>
    match cursor.rest with
    | '-' :: _ => readLeadingDashes fuel (.literal ⟨'-', false⟩ :: parts) cursor.bumpSpace
    | _ => (parts, cursor)

/-- The start of a class after its opening bracket: whether it is negated, and the characters that
stand for themselves only because they come first. The first argument bounds how many they are. -/
def readClassStart (fuel : Nat) (start : Cursor) :
    Except Fault ((Bool × List ClassSyntax) × Cursor) :=
  let cursor := start.skipSpace
  let (negated, cursor) := match cursor.rest with
    | '^' :: _ => (true, cursor.bumpSpace)
    | _ => (false, cursor)
  let (parts, cursor) := readLeadingDashes fuel [] cursor
  match parts, cursor.rest with
  | _, [] => .error .classUnclosed
  | [], ']' :: _ =>
    let cursor := cursor.bumpSpace
    if cursor.rest.isEmpty then .error .classUnclosed
    else .ok ((negated, [.literal ⟨']', false⟩]), cursor)
  | parts, _ => .ok ((negated, parts), cursor)

def applyPending : Option (ClassOperator × ClassSyntax) → ClassSyntax → ClassSyntax
  | none, right => right
  | some (operator, left), right => .combined operator left right

/-- The content of a class up to and with its closing bracket. The parts read so far stand in
reverse, and an operation may wait for its right side. -/
def readClass : Nat → Bool → Option (ClassOperator × ClassSyntax) → List ClassSyntax → Cursor →
    Except Fault (ClassSyntax × Cursor)
  | 0, _, _, _, _ => .error .classUnclosed
  | fuel + 1, negated, pending, parts, start =>
    let cursor := start.skipSpace
    let left : ClassSyntax := applyPending pending (.ofParts parts.reverse)
    match cursor.rest with
    | [] => .error .classUnclosed
    | ']' :: rest => .ok (.bracketed negated left, cursor.moveTo rest)
    | '[' :: rest =>
      match readNamedClass? rest with
      | some (part, rest) => readClass fuel negated pending (part :: parts) (cursor.moveTo rest)
      | none =>
        match readClassStart fuel (cursor.moveTo rest) with
        | .error fault => .error fault
        | .ok ((innerNegated, innerParts), inner) =>
          match readClass fuel innerNegated none innerParts inner with
          | .error fault => .error fault
          | .ok (part, cursor) => readClass fuel negated pending (part :: parts) cursor
    | '&' :: '&' :: rest =>
      readClass fuel negated (some (.intersection, left)) [] (cursor.moveTo rest)
    | '-' :: '-' :: rest =>
      readClass fuel negated (some (.difference, left)) [] (cursor.moveTo rest)
    | '~' :: '~' :: rest =>
      readClass fuel negated (some (.symmetricDifference, left)) [] (cursor.moveTo rest)
    | _ =>
      match readClassRange cursor with
      | .error fault => .error fault
      | .ok (part, cursor) => readClass fuel negated pending (part :: parts) cursor

def readBracketed (fuel : Nat) (start : Cursor) : Except Fault (Syntax × Cursor) := do
  let ((negated, parts), cursor) ← readClassStart fuel start
  let (content, cursor) ← readClass fuel negated none parts cursor
  match content with
  | .bracketed negated content => .ok (.bracketed negated content, cursor)
  | _ => .error .classUnclosed

/-- Repeats the last of the parts read so far, which stand in reverse. -/
def repeatLast (least : Nat) (most : Option Nat) (greedy : Bool) :
    List Syntax → Except Fault (List Syntax)
  | [] => .error .repetitionMissing
  | .empty :: _ | .flags _ :: _ => .error .repetitionMissing
  | last :: parts => .ok (.repetition least most greedy last :: parts)

def readGreed (cursor : Cursor) : Bool × Cursor :=
  match cursor.rest with
  | '?' :: rest => (false, cursor.moveTo rest)
  | _ => (true, cursor)

def signBounds : Char → Nat × Option Nat
  | '?' => (0, some 1)
  | '*' => (0, none)
  | _ => (1, none)

/-- An expression by its branches but the last, and the parts of the last one. Both stand in
reverse. -/
def Syntax.ofReversed (branches parts : List Syntax) : Syntax :=
  .ofBranches (Syntax.ofParts parts.reverse :: branches).reverse

/-- An expression up to the end of its group or text, which is not taken. The parts and branches
read so far stand in reverse. -/
def readExpression : Nat → List Syntax → List Syntax → Cursor → Except Fault (Syntax × Cursor)
  | 0, _, _, _ => .error .nesting
  | fuel + 1, branches, parts, start =>
    let cursor := start.skipSpace
    match cursor.rest with
    | [] | ')' :: _ => .ok (.ofReversed branches parts, cursor)
    | '|' :: rest =>
      readExpression fuel (Syntax.ofParts parts.reverse :: branches) [] (cursor.moveTo rest)
    | '(' :: rest =>
      match readOpening (cursor.moveTo rest) with
      | .error fault => .error fault
      | .ok (.flags flags, inner) =>
        let verbose := (flags.lookup .verbose).getD cursor.verbose
        readExpression fuel branches (.flags flags :: parts) { inner with verbose }
      | .ok (.group capturing flags, inner) =>
        let verbose := (flags.lookup .verbose).getD cursor.verbose
        match readExpression fuel [] [] { inner with verbose } with
        | .error fault => .error fault
        | .ok (content, ended) =>
          match ended.rest with
          | ')' :: rest =>
            readExpression fuel branches (.group capturing flags content :: parts)
              { ended with rest, verbose := cursor.verbose }
          | _ => .error .groupUnclosed
    | '[' :: rest =>
      match readBracketed fuel (cursor.moveTo rest) with
      | .error fault => .error fault
      | .ok (part, cursor) => readExpression fuel branches (part :: parts) cursor
    | '{' :: rest =>
      match parts with
      | [] | .empty :: _ | .flags _ :: _ => .error .repetitionMissing
      | _ =>
        match readBounds (cursor.moveTo rest).skipSpace with
        | .error fault => .error fault
        | .ok ((least, most), bounded) =>
          let (greedy, cursor) := readGreed bounded.skipSpace
          match repeatLast least most greedy parts with
          | .error fault => .error fault
          | .ok parts => readExpression fuel branches parts cursor
    | c :: rest =>
      if c = '?' ∨ c = '*' ∨ c = '+' then
        let (greedy, next) := readGreed (cursor.moveTo rest)
        match repeatLast (signBounds c).1 (signBounds c).2 greedy parts with
        | .error fault => .error fault
        | .ok parts => readExpression fuel branches parts next
      else
        match readPrimitive cursor with
        | .error fault => .error fault
        | .ok (part, cursor) => readExpression fuel branches (part.toSyntax :: parts) cursor

def parse (text : List Char) : Except Fault Syntax :=
  match readExpression (text.length + 1) [] [] ⟨text, false, []⟩ with
  | .error fault => .error fault
  | .ok (content, ended) => if ended.rest.isEmpty then .ok content else .error .groupUnopened

end ByteScan.Regex
