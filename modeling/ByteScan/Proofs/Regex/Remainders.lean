import ByteScan.Regex.Parser
import Mathlib.Data.List.TakeDrop

/-!
# What a parser leaves

A parser only ever takes characters from the front, so what it leaves is the end of the text that
it was given. `readExpression_leaves` says so of the whole parser, and the lemmas before it say so
of its parts. A character that a text does not hold can therefore not turn up in any part of it.
-/

namespace ByteScan.Regex

/-- What is left, if anything was read, is the end of a text. -/
def Leaves (text : List Char) (result : Except Fault (α × Cursor)) : Prop :=
  ∀ value ended, result = .ok (value, ended) → ended.rest <:+ text

namespace Leaves

variable {text : List Char}

theorem error (fault : Fault) : Leaves text (.error fault : Except Fault (α × Cursor)) := nofun

theorem ok {value : α} {ended : Cursor} (suffix : ended.rest <:+ text) :
    Leaves text (.ok (value, ended)) := by
  intro _ _ same
  cases same
  exact suffix

theorem mono {other : List Char} {result : Except Fault (α × Cursor)}
    (leaves : Leaves other result) (suffix : other <:+ text) : Leaves text result :=
  fun value ended same => (leaves value ended same).trans suffix

theorem bind {first : Except Fault (α × Cursor)} {next : α × Cursor → Except Fault (β × Cursor)}
    (leaves : Leaves text first)
    (following : ∀ value cursor, cursor.rest <:+ text → Leaves text (next (value, cursor))) :
    Leaves text (first >>= next) := by
  cases first with
  | error fault => exact error fault
  | ok result => exact following result.1 result.2 (leaves result.1 result.2 rfl)

theorem ite {condition : Prop} [Decidable condition] {first second : Except Fault (α × Cursor)}
    (whenTrue : Leaves text first) (whenFalse : Leaves text second) :
    Leaves text (if condition then first else second) := by
  split
  · exact whenTrue
  · exact whenFalse

theorem bind_value {first : Except Fault α} {next : α → Except Fault (β × Cursor)}
    (following : ∀ value, Leaves text (next value)) : Leaves text (first >>= next) := by
  cases first with
  | error fault => exact error fault
  | ok value => exact following value

end Leaves

theorem suffix_of_eq_cons {text rest : List Char} {c : Char} (same : text = c :: rest) :
    rest <:+ text :=
  same ▸ List.suffix_cons c rest

theorem suffix_of_span {text first rest : List Char} {property : Char → Bool}
    (same : text.span property = (first, rest)) : rest <:+ text := by
  rw [List.span_eq_takeWhile_dropWhile] at same
  cases same
  exact List.dropWhile_suffix property

/-! ## Blanks -/

namespace Cursor

theorem afterComment_suffix (text : List Char) : afterComment text <:+ text := by
  fun_induction afterComment text with
  | case1 => exact List.suffix_refl []
  | case2 rest => exact List.suffix_cons _ rest
  | case3 c rest _ ih => exact ih.trans (List.suffix_cons c rest)

theorem afterBlanks_suffix (text : List Char) : afterBlanks text <:+ text := by
  fun_induction afterBlanks text with
  | case1 => exact List.suffix_refl []
  | case2 c rest _ ih => exact ih.trans (List.suffix_cons c rest)
  | case3 rest _ ih =>
      exact ih.trans ((afterComment_suffix rest).trans (List.suffix_cons _ rest))
  | case4 c rest => exact List.suffix_refl _

theorem skipSpace_suffix (cursor : Cursor) : cursor.skipSpace.rest <:+ cursor.rest := by
  unfold skipSpace
  split
  · exact afterBlanks_suffix cursor.rest
  · exact List.suffix_refl _

theorem bumpSpace_suffix (cursor : Cursor) : cursor.bumpSpace.rest <:+ cursor.rest :=
  (skipSpace_suffix _).trans (List.tail_suffix cursor.rest)

end Cursor

open Cursor

/-! ## Groups and repetitions -/

theorem readFlags_suffix {text : List Char} {negated last : Bool} {flags found : Flags}
    {closed : Bool} {rest : List Char}
    (same : readFlags text negated last flags = .ok (found, closed, rest)) : rest <:+ text := by
  induction text generalizing negated last flags with
  | nil => cases same
  | cons c text ih =>
      rw [readFlags] at same
      split at same
      · split at same
        · cases same
        · cases same
          exact List.suffix_cons c _
      · split at same
        · split at same
          · cases same
          · exact (ih same).trans (List.suffix_cons c text)
        · split at same
          · cases same
          · split at same
            · cases same
            · exact (ih same).trans (List.suffix_cons c text)

theorem readGroupName_leaves (cursor : Cursor) : Leaves cursor.rest (readGroupName cursor) := by
  unfold readGroupName
  split
  rename_i name rest spanned
  have left := suffix_of_span spanned
  split
  · exact .error _
  · exact .error _
  · dsimp only
    split
    · exact .error _
    · exact .ok ((List.suffix_cons _ _).trans left)

theorem readOpening_leaves (start : Cursor) : Leaves start.rest (readOpening start) := by
  have skipped := skipSpace_suffix start
  have named : ∀ rest, rest <:+ start.rest → Leaves start.rest
      ((readGroupName (start.skipSpace.moveTo rest)).map fun named =>
        (Opening.group true [], named.2)) := by
    intro rest suffix
    have leaves := (readGroupName_leaves (start.skipSpace.moveTo rest)).mono suffix
    cases found : readGroupName (start.skipSpace.moveTo rest) with
    | error fault => exact .error fault
    | ok result => exact .ok (leaves result.1 result.2 found)
  unfold readOpening
  dsimp only
  split
  · exact .error _
  · exact .error _
  · exact .error _
  · exact .error _
  · rename_i rest same
    refine named rest (List.IsSuffix.trans ?_ skipped)
    rw [same]
    exact ⟨['?', 'P', '<'], rfl⟩
  · rename_i rest _ _ same
    refine named rest (List.IsSuffix.trans ?_ skipped)
    rw [same]
    exact ⟨['?', '<'], rfl⟩
  · exact .error _
  · rename_i rest _ _ _ _ _ _ _ same
    have suffix := (suffix_of_eq_cons same).trans skipped
    split
    · exact .error _
    · rename_i read
      have left := (readFlags_suffix read).trans suffix
      split
      · split
        · exact .error _
        · exact .ok left
      · exact .ok left
  · exact .ok skipped

theorem readCount_digits_suffix (fuel : Nat) (found : List Char) (cursor : Cursor) :
    (readCount.digits fuel found cursor).2.rest <:+ cursor.rest := by
  induction fuel generalizing found cursor with
  | zero => exact List.suffix_refl _
  | succ fuel ih =>
      unfold readCount.digits
      split
      · split
        · exact (ih _ cursor.bumpSpace).trans (bumpSpace_suffix cursor)
        · exact List.suffix_refl _
      · exact List.suffix_refl _

theorem readCount_leaves (start : Cursor) : Leaves start.rest (readCount start) := by
  have begun : start.rest.dropWhile Text.isBlank <:+ start.rest := List.dropWhile_suffix _
  unfold readCount
  extract_lets isDigitAt cursor
  have read : (if isDigitAt cursor then readCount.digits cursor.rest.length [] cursor
      else ([], cursor)).2.rest <:+ start.rest := by
    split
    · exact (readCount_digits_suffix _ _ _).trans begun
    · exact begun
  generalize (if isDigitAt cursor then readCount.digits cursor.rest.length [] cursor
      else ([], cursor)) = result at read ⊢
  obtain ⟨found, cursor⟩ := result
  have passed : cursor.rest.dropWhile Text.isBlank <:+ start.rest :=
    (List.dropWhile_suffix _).trans read
  dsimp only
  generalize skipped : (if _ < cursor.rest.length then _ else _ : Cursor) = ended
  have left : ended.rest <:+ start.rest := by
    rw [← skipped]
    split
    · exact (skipSpace_suffix _).trans passed
    · exact passed
  split
  · exact .ok left
  · split
    · exact .ok left
    · exact .error _

theorem readBounds_leaves (start : Cursor) : Leaves start.rest (readBounds start) := by
  unfold readBounds
  refine (readCount_leaves start).bind ?_
  intro least cursor suffix
  dsimp only
  split
  · have next := (bumpSpace_suffix cursor).trans suffix
    split
    · exact .error _
    · split
      · rename_i same
        exact .ok ((suffix_of_eq_cons same).trans next)
      · refine ((readCount_leaves cursor.bumpSpace).mono next).bind ?_
        intro most cursor suffix
        dsimp only
        split
        · rename_i same
          split
          · exact .ok ((suffix_of_eq_cons same).trans suffix)
          · exact .error _
        · exact .error _
  · rename_i same
    split
    · exact .ok ((suffix_of_eq_cons same).trans suffix)
    · exact .error _
  · exact .error _

theorem readGreed_suffix (cursor : Cursor) : (readGreed cursor).2.rest <:+ cursor.rest := by
  unfold readGreed
  split
  · rename_i same
    exact suffix_of_eq_cons same
  · exact List.suffix_refl _

/-! ## Characters and escapes -/

theorem readHexFixed_leaves (count : Nat) (found : List Char) (cursor : Cursor) :
    Leaves cursor.rest (readHexFixed count found cursor) := by
  induction count generalizing found cursor with
  | zero => exact .ok (List.suffix_refl _)
  | succ count ih =>
      rw [readHexFixed]
      split
      · split
        · exact (ih _ cursor.bumpSpace).mono (bumpSpace_suffix cursor)
        · exact .error _
      · exact .error _

theorem readHexBrace_leaves (fuel : Nat) (found : List Char) (cursor : Cursor) :
    Leaves cursor.rest (readHexBrace fuel found cursor) := by
  induction fuel generalizing found cursor with
  | zero => exact .error _
  | succ fuel ih =>
      rw [readHexBrace]
      split
      · exact .ok (bumpSpace_suffix cursor)
      · split
        · exact (ih _ cursor.bumpSpace).mono (bumpSpace_suffix cursor)
        · exact .error _
      · exact .error _

theorem readHex_leaves (letter : Char) (start : Cursor) :
    Leaves start.rest (readHex letter start) := by
  have bumped := bumpSpace_suffix start
  unfold readHex
  dsimp only
  split
  · exact .error _
  · refine ((readHexBrace_leaves _ _ _).mono ((bumpSpace_suffix _).trans bumped)).bind ?_
    intro found cursor suffix
    dsimp only
    split
    · exact .ok suffix
    · exact .error _
  · refine ((readHexFixed_leaves _ _ _).mono bumped).bind ?_
    intro found cursor suffix
    dsimp only
    split
    · exact .ok suffix
    · exact .error _

theorem readBraced_leaves (fuel : Nat) (found : List Char) (cursor : Cursor) :
    Leaves cursor.rest (readBraced fuel found cursor) := by
  induction fuel generalizing found cursor with
  | zero => exact .error _
  | succ fuel ih =>
      rw [readBraced]
      split
      · rename_i same
        exact .ok (suffix_of_eq_cons same)
      · exact (ih _ cursor.bumpSpace).mono (bumpSpace_suffix cursor)
      · exact .error _

theorem readProperty_leaves (negated : Bool) (start : Cursor) :
    Leaves start.rest (readProperty negated start) := by
  have bumped := bumpSpace_suffix start
  unfold readProperty
  dsimp only
  split
  · exact .error _
  · refine ((readBraced_leaves _ _ _).mono ((bumpSpace_suffix _).trans bumped)).bind ?_
    intro name cursor suffix
    exact .ok suffix
  · exact .error _
  · exact .ok ((bumpSpace_suffix _).trans bumped)

theorem readBoundaryName_suffix (fuel : Nat) (found : List Char) (cursor : Cursor) :
    (readBoundaryName fuel found cursor).2.rest <:+ cursor.rest := by
  induction fuel generalizing found cursor with
  | zero => exact List.suffix_refl _
  | succ fuel ih =>
      rw [readBoundaryName]
      split
      · split
        · exact (ih _ cursor.bumpSpace).trans (bumpSpace_suffix cursor)
        · exact List.suffix_refl _
      · exact List.suffix_refl _

theorem readBoundary_leaves (start : Cursor) : Leaves start.rest (readBoundary start) := by
  have bumped := bumpSpace_suffix start
  unfold readBoundary
  split
  · dsimp only
    split
    · exact .error _
    · split
      · exact .ok (List.suffix_refl _)
      · have named := (readBoundaryName_suffix (start.bumpSpace.rest.length + 1) []
          start.bumpSpace).trans bumped
        split
        · rename_i same
          have left := (suffix_of_eq_cons same).trans named
          split
          · exact .ok left
          · exact .ok left
          · exact .ok left
          · exact .ok left
          · exact .error _
        · exact .error _
  · exact .ok (List.suffix_refl _)

theorem readEscape_leaves (start : Cursor) : Leaves start.rest (readEscape start) := by
  unfold readEscape
  split
  · exact .error _
  · rename_i c rest same
    have left : rest <:+ start.rest := suffix_of_eq_cons same
    have literal : ∀ part : Primitive, Leaves start.rest (.ok (part, start.moveTo rest)) :=
      fun part => .ok left
    refine .ite (.error _) (.ite (readHex_leaves c start) ?_)
    refine .ite (readProperty_leaves false start) (.ite (readProperty_leaves true start) ?_)
    refine .ite (literal _) (.ite (literal _) (.ite (literal _) ?_))
    refine .ite (literal _) (.ite (literal _) (.ite (literal _) (.ite (literal _) ?_)))
    split
    · exact literal _
    · exact literal _
    · exact literal _
    · exact literal _
    · exact literal _
    · exact literal _
    · exact literal _
    · exact literal _
    · exact (readBoundary_leaves (start.moveTo rest)).mono left
    · exact literal _
    · exact literal _
    · exact literal _
    · exact .error _

theorem readPrimitive_leaves (start : Cursor) : Leaves start.rest (readPrimitive start) := by
  unfold readPrimitive
  split
  · exact .error _
  · rename_i rest same
    exact (readEscape_leaves (start.moveTo rest)).mono (suffix_of_eq_cons same)
  · rename_i same
    exact .ok (suffix_of_eq_cons same)
  · rename_i same
    exact .ok (suffix_of_eq_cons same)
  · rename_i same
    exact .ok (suffix_of_eq_cons same)
  · rename_i same
    exact .ok (suffix_of_eq_cons same)

/-! ## Classes -/

theorem readClassItem_leaves (start : Cursor) : Leaves start.rest (readClassItem start) := by
  unfold readClassItem
  split
  · exact .error _
  · rename_i rest same
    exact (readEscape_leaves (start.moveTo rest)).mono (suffix_of_eq_cons same)
  · rename_i same
    exact .ok (suffix_of_eq_cons same)

theorem readClassRange_leaves (start : Cursor) : Leaves start.rest (readClassRange start) := by
  unfold readClassRange
  refine (readClassItem_leaves start).bind ?_
  intro first cursor suffix
  have skipped := (skipSpace_suffix cursor).trans suffix
  dsimp only
  split
  · exact .error _
  · split
    · refine .bind_value ?_
      intro part
      exact .ok skipped
    · have bumped := (bumpSpace_suffix cursor.skipSpace).trans skipped
      refine ((readClassItem_leaves cursor.skipSpace.bumpSpace).mono bumped).bind ?_
      intro last cursor suffix
      refine .bind_value ?_
      intro low
      refine .bind_value ?_
      intro high
      split
      · exact .ok suffix
      · exact .error _

theorem readNamedClass?_suffix {text rest : List Char} {part : ClassSyntax}
    (found : readNamedClass? text = some (part, rest)) : rest <:+ text := by
  unfold readNamedClass? at found
  split at found
  · rename_i name
    dsimp only at found
    split at found
    · rename_i same
      obtain ⟨kind, _, result⟩ := Option.map_eq_some_iff.mp found
      cases result
      have left := suffix_of_span same
      have tail : rest <:+ ':' :: ']' :: rest := ⟨[':', ']'], rfl⟩
      refine (tail.trans left).trans ?_
      split
      · exact ⟨[':', '^'], rfl⟩
      · exact List.suffix_cons _ _
    · cases found
  · cases found

theorem readLeadingDashes_suffix (fuel : Nat) (parts : List ClassSyntax) (cursor : Cursor) :
    (readLeadingDashes fuel parts cursor).2.rest <:+ cursor.rest := by
  induction fuel generalizing parts cursor with
  | zero => exact List.suffix_refl _
  | succ fuel ih =>
      rw [readLeadingDashes]
      split
      · exact (ih _ cursor.bumpSpace).trans (bumpSpace_suffix cursor)
      · exact List.suffix_refl _

theorem readClassStart_leaves (fuel : Nat) (start : Cursor) :
    Leaves start.rest (readClassStart fuel start) := by
  unfold readClassStart
  extract_lets cursor
  have skipped : cursor.rest <:+ start.rest := skipSpace_suffix start
  split
  rename_i negated inner signed
  have sign : inner.rest <:+ start.rest := by
    split at signed
    · cases signed
      exact (bumpSpace_suffix cursor).trans skipped
    · cases signed
      exact skipped
  split
  rename_i parts ended dashed
  have dashes : ended.rest <:+ start.rest := by
    have left := (readLeadingDashes_suffix fuel [] inner).trans sign
    rw [dashed] at left
    exact left
  split
  · exact .error _
  · dsimp only
    split
    · exact .error _
    · exact .ok ((bumpSpace_suffix _).trans dashes)
  · exact .ok dashes

theorem readClass_leaves (fuel : Nat) (negated : Bool)
    (pending : Option (ClassOperator × ClassSyntax)) (parts : List ClassSyntax) (start : Cursor) :
    Leaves start.rest (readClass fuel negated pending parts start) := by
  induction fuel generalizing negated pending parts start with
  | zero => exact .error _
  | succ fuel ih =>
      have skipped := skipSpace_suffix start
      unfold readClass
      dsimp only
      split
      · exact .error _
      · rename_i same
        exact .ok ((suffix_of_eq_cons same).trans skipped)
      · rename_i rest same
        have opened := (suffix_of_eq_cons same).trans skipped
        split
        · rename_i found
          exact (ih _ _ _ _).mono ((readNamedClass?_suffix found).trans opened)
        · split
          · exact .error _
          · rename_i begun
            have inside := ((readClassStart_leaves _ _).mono opened) _ _ begun
            split
            · exact .error _
            · rename_i closed
              exact (ih _ _ _ _).mono (((ih _ _ _ _).mono inside) _ _ closed)
      · rename_i rest same
        refine (ih _ _ _ _).mono (List.IsSuffix.trans ?_ skipped)
        exact same ▸ ⟨['&', '&'], rfl⟩
      · rename_i rest same
        refine (ih _ _ _ _).mono (List.IsSuffix.trans ?_ skipped)
        exact same ▸ ⟨['-', '-'], rfl⟩
      · rename_i rest same
        refine (ih _ _ _ _).mono (List.IsSuffix.trans ?_ skipped)
        exact same ▸ ⟨['~', '~'], rfl⟩
      · split
        · exact .error _
        · rename_i read
          exact (ih _ _ _ _).mono (((readClassRange_leaves _).mono skipped) _ _ read)

theorem readBracketed_leaves (fuel : Nat) (start : Cursor) :
    Leaves start.rest (readBracketed fuel start) := by
  unfold readBracketed
  refine (readClassStart_leaves fuel start).bind ?_
  intro begun cursor suffix
  refine ((readClass_leaves fuel begun.1 none begun.2 cursor).mono suffix).bind ?_
  intro content cursor suffix
  dsimp only
  split
  · exact .ok suffix
  · exact .error _

/-! ## Expressions -/

/-- What one step makes of the branches and parts read so far: a bar ends a branch, a part is added,
or the last part is repeated. -/
inductive Step (text : List Char) (branches parts : List Syntax) :
    List Syntax → List Syntax → Prop where
  | bar (held : '|' ∈ text) : Step text branches parts (.ofParts parts.reverse :: branches) []
  | part (part : Syntax) : Step text branches parts branches (part :: parts)
  | again {least : Nat} {most : Option Nat} {greedy : Bool} {repeated : List Syntax}
      (same : repeatLast least most greedy parts = .ok repeated) :
      Step text branches parts branches repeated

/-- An expression has been read, or one step of reading it leads to the rest. -/
theorem readExpression_step {fuel : Nat} {branches parts : List Syntax} {start ended : Cursor}
    {content : Syntax} (grouped : ∀ start, Leaves start.rest (readExpression fuel [] [] start))
    (read : readExpression (fuel + 1) branches parts start = .ok (content, ended)) :
    (content = .ofReversed branches parts ∧ ended.rest <:+ start.rest) ∨
      ∃ others more next, Step start.rest branches parts others more ∧
        next.rest <:+ start.rest ∧ readExpression fuel others more next = .ok (content, ended) := by
  have skipped := skipSpace_suffix start
  unfold readExpression at read
  dsimp only at read
  split at read
  · cases read
    exact Or.inl ⟨rfl, skipped⟩
  · cases read
    exact Or.inl ⟨rfl, skipped⟩
  · rename_i rest same
    have held : '|' ∈ start.skipSpace.rest := by
      rw [same]
      exact List.mem_cons_self
    exact Or.inr ⟨_, _, _, .bar (skipped.subset held), (suffix_of_eq_cons same).trans skipped, read⟩
  · rename_i rest same
    have opened := (suffix_of_eq_cons same).trans skipped
    split at read
    · cases read
    · rename_i begun
      have inside := ((readOpening_leaves _).mono opened) _ _ begun
      refine Or.inr ⟨_, _, _, .part _, ?_, read⟩
      exact inside
    · rename_i begun
      have inside := ((readOpening_leaves _).mono opened) _ _ begun
      split at read
      · cases read
      · rename_i content ended closed
        have left := (grouped _ _ _ closed).trans inside
        split at read
        · rename_i same
          refine Or.inr ⟨_, _, _, .part _, ?_, read⟩
          exact (suffix_of_eq_cons same).trans left
        · cases read
  · rename_i rest same
    have opened := (suffix_of_eq_cons same).trans skipped
    split at read
    · cases read
    · rename_i closed
      exact Or.inr ⟨_, _, _, .part _, ((readBracketed_leaves _ _).mono opened) _ _ closed, read⟩
  · rename_i rest same
    have opened := (suffix_of_eq_cons same).trans skipped
    split at read
    · cases read
    · cases read
    · cases read
    · split at read
      · cases read
      · rename_i bounded bounds
        have left := ((readBounds_leaves _).mono ((skipSpace_suffix _).trans opened)) _ _ bounds
        have greed := ((readGreed_suffix _).trans (skipSpace_suffix bounded)).trans left
        split at read
        · cases read
        · rename_i again
          exact Or.inr ⟨_, _, _, .again again, greed, read⟩
  · rename_i c rest _ _ _ _ same
    have taken := (suffix_of_eq_cons same).trans skipped
    split at read
    · split at read
      · cases read
      · rename_i again
        exact Or.inr ⟨_, _, _, .again again, (readGreed_suffix _).trans taken, read⟩
    · split at read
      · cases read
      · rename_i primitive
        exact Or.inr ⟨_, _, _, .part _, ((readPrimitive_leaves _).mono skipped) _ _ primitive, read⟩

/-- What an expression leaves is the end of the text it was read from. -/
theorem readExpression_leaves (fuel : Nat) (branches parts : List Syntax) (start : Cursor) :
    Leaves start.rest (readExpression fuel branches parts start) := by
  induction fuel generalizing branches parts start with
  | zero => exact .error _
  | succ fuel ih =>
      intro content ended read
      rcases readExpression_step (ih [] []) read with ⟨_, left⟩ | ⟨_, _, next, _, left, rest⟩
      · exact left
      · exact (ih _ _ next content ended rest).trans left

end ByteScan.Regex
