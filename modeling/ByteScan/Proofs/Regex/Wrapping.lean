import ByteScan.Pattern.Atom
import ByteScan.Regex.Basic
import ByteScan.Proofs.Regex.Remainders

/-!
# The group around an expression

An expression is compiled in a group behind an anchor, and its text may itself close that group and
repeat it. Where it has no alternatives, `parse_anchored` says what is left of its first characters:
they begin the content of the group, and only the group and the last of them may be repeated.
-/

namespace ByteScan.Regex

/-! ## Parts of a syntax -/

namespace Syntax

/-- Every repetition around a part asks for at least one round. -/
def isRequired : Syntax → Bool
  | .repetition least _ _ inner => least != 0 && inner.isRequired
  | _ => true

def repeated : Syntax → Syntax
  | .repetition _ _ _ inner => inner.repeated
  | part => part

def content : Syntax → Syntax
  | .group _ _ inner => inner
  | part => part

def parts : Syntax → List Syntax
  | .empty => []
  | .concatenation parts => parts
  | part => [part]

def ofChar (c : Char) : Syntax := .literal ⟨c, false⟩

end Syntax

/-! ## Reading on -/

/-- Parts were read on top of others, of which only the last may have been repeated. Both stand in
reverse. -/
def Grown (before after : List Syntax) : Prop :=
  ∀ top below, before = top :: below →
    ∃ later repetition, after = later ++ repetition :: below ∧ repetition.repeated = top.repeated

theorem Grown.refl (parts : List Syntax) : Grown parts parts :=
  fun top _ same => ⟨[], top, same, rfl⟩

theorem Grown.of_cons {part : Syntax} {before after : List Syntax}
    (grown : Grown (part :: before) after) : Grown before after := by
  intro top below same
  obtain ⟨later, repetition, rfl, _⟩ := grown part before rfl
  refine ⟨later ++ [repetition], top, ?_, rfl⟩
  rw [same, List.append_assoc]
  rfl

theorem Grown.of_repeatLast {least : Nat} {most : Option Nat} {greedy : Bool}
    {before parts after : List Syntax} (again : repeatLast least most greedy before = .ok parts)
    (grown : Grown parts after) : Grown before after := by
  intro top below same
  subst same
  unfold repeatLast at again
  split at again
  · cases again
  · cases again
  · cases again
  · rename_i heads
    cases heads
    cases again
    obtain ⟨later, repetition, whole, same⟩ := grown _ _ rfl
    exact ⟨later, repetition, whole, same⟩

/-- Where there are no alternatives, an expression is read on top of the parts before it. -/
theorem readExpression_grown {fuel : Nat} {branches parts : List Syntax} {start ended : Cursor}
    {content : Syntax} (single : '|' ∉ start.rest)
    (read : readExpression fuel branches parts start = .ok (content, ended)) :
    ∃ after, content = .ofReversed branches after ∧ Grown parts after := by
  induction fuel generalizing parts start with
  | zero => cases read
  | succ fuel ih =>
      rcases readExpression_step (readExpression_leaves fuel [] []) read with
        ⟨whole, _⟩ | ⟨others, more, next, step, left, rest⟩
      · exact ⟨parts, whole, .refl parts⟩
      · have within : '|' ∉ next.rest := fun member => single (left.subset member)
        cases step with
        | bar held => exact absurd held single
        | part part =>
            obtain ⟨after, whole, grown⟩ := ih within rest
            exact ⟨after, whole, grown.of_cons⟩
        | again same =>
            obtain ⟨after, whole, grown⟩ := ih within rest
            exact ⟨after, whole, grown.of_repeatLast same⟩

/-! ## The first characters -/

/-- A character that has no meaning of its own wherever it stands outside of a class. -/
def isPlain (c : Char) : Bool := c.toNat < 0x80 && !Atom.isRegexSpecial c

/-- The characters that an expression begins with before the first that has a meaning. -/
def plainStart (source : String) : List Char := source.toList.takeWhile isPlain

theorem ne_of_isPlain {c special : Char} (plain : isPlain c = true)
    (meaning : isPlain special = false) : c ≠ special := by
  intro same
  rw [same, meaning] at plain
  cases plain

theorem cons_ne_of_isPlain {c special : Char} {rest more : List Char} (plain : isPlain c = true)
    (meaning : isPlain special = false) : c :: rest ≠ special :: more :=
  fun same => ne_of_isPlain plain meaning (List.cons.inj same).1

theorem readPrimitive_plain {c : Char} (plain : isPlain c = true) (rest : List Char)
    (names : List String) :
    readPrimitive ⟨c :: rest, false, names⟩ =
      .ok (.literal ⟨c, false⟩, ⟨rest, false, names⟩) := by
  unfold readPrimitive
  dsimp only
  split
  · rename_i same
    cases same
  · rename_i same
    exact absurd same (cons_ne_of_isPlain plain (by decide))
  · rename_i same
    exact absurd same (cons_ne_of_isPlain plain (by decide))
  · rename_i same
    exact absurd same (cons_ne_of_isPlain plain (by decide))
  · rename_i same
    exact absurd same (cons_ne_of_isPlain plain (by decide))
  · rename_i same
    cases same
    rfl

theorem readExpression_plain {c : Char} (plain : isPlain c = true) (fuel : Nat)
    (branches parts : List Syntax) (rest : List Char) (names : List String) :
    readExpression (fuel + 1) branches parts ⟨c :: rest, false, names⟩ =
      readExpression fuel branches (.ofChar c :: parts) ⟨rest, false, names⟩ := by
  have skipped : Cursor.skipSpace ⟨c :: rest, false, names⟩ = ⟨c :: rest, false, names⟩ := rfl
  rw [readExpression, skipped]
  dsimp only
  split
  · rename_i same
    cases same
  · rename_i same
    exact absurd same (cons_ne_of_isPlain plain (by decide))
  · rename_i same
    exact absurd same (cons_ne_of_isPlain plain (by decide))
  · rename_i same
    exact absurd same (cons_ne_of_isPlain plain (by decide))
  · rename_i same
    exact absurd same (cons_ne_of_isPlain plain (by decide))
  · rename_i same
    exact absurd same (cons_ne_of_isPlain plain (by decide))
  · rename_i same
    cases same
    have noSign : ¬(c = '?' ∨ c = '*' ∨ c = '+') := by
      rintro (same | same | same)
      · exact ne_of_isPlain plain (by decide) same
      · exact ne_of_isPlain plain (by decide) same
      · exact ne_of_isPlain plain (by decide) same
    rw [if_neg noSign, readPrimitive_plain plain]
    rfl

theorem readExpression_plainStart {plain : List Char} (own : ∀ c ∈ plain, isPlain c = true)
    {fuel : Nat} {branches parts : List Syntax} {rest : List Char} {names : List String}
    {result : Syntax × Cursor}
    (read : readExpression fuel branches parts ⟨plain ++ rest, false, names⟩ = .ok result) :
    ∃ fuel, readExpression fuel branches ((plain.map .ofChar).reverse ++ parts)
      ⟨rest, false, names⟩ = .ok result := by
  induction plain generalizing fuel parts with
  | nil => exact ⟨fuel, read⟩
  | cons c plain ih =>
      cases fuel with
      | zero => cases read
      | succ fuel =>
          rw [List.cons_append, readExpression_plain (own c List.mem_cons_self)] at read
          obtain ⟨fuel, read⟩ := ih (fun c member => own c (List.mem_cons_of_mem _ member)) read
          refine ⟨fuel, ?_⟩
          rw [List.map_cons, List.reverse_cons, List.append_assoc]
          exact read

/-! ## The whole text -/

theorem parse_eq_ok {text : List Char} {written : Syntax} (parsed : parse text = .ok written) :
    ∃ ended, readExpression (text.length + 1) [] [] ⟨text, false, []⟩ = .ok (written, ended) := by
  unfold parse at parsed
  split at parsed
  · cases parsed
  · rename_i content ended read
    split at parsed
    · cases parsed
      exact ⟨ended, read⟩
    · cases parsed

theorem toList_anchored (source : String) :
    (anchored source).toList = '^' :: '(' :: '?' :: ':' :: (source.toList ++ [')']) := by
  unfold anchored
  rw [String.toList_append, String.toList_append]
  rfl

theorem readExpression_anchored (fuel : Nat) (rest : List Char) :
    readExpression (fuel + 2) [] [] ⟨'^' :: '(' :: '?' :: ':' :: rest, false, []⟩ =
      match readExpression fuel [] [] ⟨rest, false, []⟩ with
      | .error fault => .error fault
      | .ok (content, ended) =>
        match ended.rest with
        | ')' :: rest =>
          readExpression fuel [] [.group false [] content, .anchor .startLine]
            { ended with rest, verbose := false }
        | _ => .error .groupUnclosed :=
  rfl

/-- Without alternatives an expression is its group behind an anchor, where the group may be
repeated, and the first characters begin what it holds, where the last of them may be repeated. -/
theorem parse_anchored {source : String} {written : Syntax} (single : '|' ∉ source.toList)
    (parsed : parse (anchored source).toList = .ok written) :
    ∃ front rest inner,
      written = .ofParts (.anchor .startLine :: front :: rest) ∧
      front.repeated = .group false [] (.ofParts inner.reverse) ∧
      Grown ((plainStart source).map .ofChar).reverse inner := by
  obtain ⟨ended, read⟩ := parse_eq_ok parsed
  rw [toList_anchored, List.length_cons, List.length_cons, List.length_cons,
    readExpression_anchored] at read
  have noBar : '|' ∉ source.toList ++ [')'] := by
    intro member
    rcases List.mem_append.mp member with member | member
    · exact single member
    · cases List.mem_singleton.mp member
  split at read
  · cases read
  · rename_i content closed inside
    split at read
    · rename_i rest same
      have left := (suffix_of_eq_cons same).trans (readExpression_leaves _ _ _ _ _ _ inside)
      obtain ⟨outer, whole, outerGrown⟩ :=
        readExpression_grown (by exact fun member => noBar (left.subset member)) read
      obtain ⟨later, front, rfl, repeats⟩ := outerGrown _ _ rfl
      have split : source.toList = plainStart source ++ source.toList.dropWhile isPlain :=
        List.takeWhile_append_dropWhile.symm
      rw [split, List.append_assoc] at inside
      obtain ⟨fuel, inside⟩ := readExpression_plainStart
        (fun c member => List.all_eq_true.mp List.all_takeWhile c member) inside
      obtain ⟨inner, contents, innerGrown⟩ := readExpression_grown (by
        intro member
        apply noBar
        rw [split, List.append_assoc]
        exact List.mem_append_right _ member) inside
      rw [List.append_nil] at innerGrown
      refine ⟨front, later.reverse, inner, ?_, ?_, innerGrown⟩
      · rw [whole, Syntax.ofReversed, List.reverse_append, List.reverse_cons]
        rfl
      · rw [repeats, contents]
        rfl
    · cases read

end ByteScan.Regex
