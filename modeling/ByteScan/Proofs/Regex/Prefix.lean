import ByteScan.Pattern.Occurrence
import ByteScan.Proofs.Regex.ByteSets
import ByteScan.Proofs.Regex.Openings
import ByteScan.Proofs.Regex.Wrapping
import ByteScan.Proofs.Success

/-!
# The first bytes of a regular expression

The bytes that `regexPrefix` takes from the text of an expression stand at each of its matches if
none of the parts that they come from may be left out, and neither may the group around them. That
is `Regex.prefix_stands`. The text alone does not tell: a text may close the group that it is put
in and repeat it, and a plus sign may itself be repeated.
-/

namespace ByteScan

open Atom

namespace Regex

/-! ## Meaning of parts -/

def literalSet (caseless : Bool) (c : Char) : ByteSet :=
  if caseless then (ByteSet.singleton (UInt8.ofNat c.toNat)).foldCase
  else ByteSet.singleton (UInt8.ofNat c.toNat)

variable {mode after : Mode} {expression : Expression}

theorem ofChar_meaning (bytes : mode.unicode = false) {c : Char} (ascii : c.toNat < 0x80) :
    (Syntax.ofChar c).meaning mode = .ok (.set (literalSet mode.caseless c), mode) := by
  unfold Syntax.ofChar Syntax.meaning Literal.meaning literalSet
  simp only [bytes, Bool.false_eq_true, if_false, Bool.false_and, if_pos ascii]

theorem meanings_cons {part : Syntax} {parts : List Syntax} {expressions : List Expression}
    (meant : Syntax.meanings mode (part :: parts) = .ok (expressions, after)) :
    ∃ first between rest, part.meaning mode = .ok (first, between) ∧
      Syntax.meanings between parts = .ok (rest, after) ∧ expressions = first :: rest := by
  rw [Syntax.meanings] at meant
  obtain ⟨⟨first, between⟩, isFirst, meant⟩ := bind_eq_ok meant
  obtain ⟨⟨rest, last⟩, isRest, meant⟩ := bind_eq_ok meant
  cases meant
  exact ⟨first, between, rest, isFirst, isRest, rfl⟩

theorem ofParts_meaning {parts : List Syntax}
    (meant : (Syntax.ofParts parts).meaning mode = .ok (expression, after)) :
    ∃ expressions, Syntax.meanings mode parts = .ok (expressions, after) ∧
      expression.compile = Expression.compileAll expressions := by
  unfold Syntax.ofParts at meant
  split at meant
  · rw [Syntax.meaning] at meant
    cases meant
    exact ⟨[], rfl, rfl⟩
  · rename_i part
    refine ⟨[expression], ?_, rfl⟩
    rw [Syntax.meanings, meant]
    rfl
  · rw [Syntax.meaning] at meant
    obtain ⟨⟨expressions, last⟩, isMeant, meant⟩ := bind_eq_ok meant
    cases meant
    exact ⟨expressions, isMeant, Expression.compile_ofSequence expressions⟩

theorem required_opens {sets : List ByteSet} : (part : Syntax) → part.isRequired = true →
    (∀ inner between, part.repeated.meaning mode = .ok (inner, between) →
      Opens inner.compile sets) →
    ∀ {expression after}, part.meaning mode = .ok (expression, after) →
      Opens expression.compile sets
  | .repetition least most greedy inner, required, opens, _, _, meant => by
      rw [Syntax.isRequired, Bool.and_eq_true, bne_iff_ne] at required
      rw [Syntax.meaning] at meant
      obtain ⟨⟨round, last⟩, isRound, meant⟩ := bind_eq_ok meant
      cases meant
      exact Expression.rounds_opens (required_opens inner required.2 opens isRound)
        (Nat.pos_of_ne_zero required.1) most _
  | .empty, _, opens, _, _, meant => opens _ _ meant
  | .flags _, _, opens, _, _, meant => opens _ _ meant
  | .literal _, _, opens, _, _, meant => opens _ _ meant
  | .dot, _, opens, _, _, meant => opens _ _ meant
  | .anchor _, _, opens, _, _, meant => opens _ _ meant
  | .escape _ _, _, opens, _, _, meant => opens _ _ meant
  | .property _ _, _, opens, _, _, meant => opens _ _ meant
  | .bracketed _ _, _, opens, _, _, meant => opens _ _ meant
  | .group _ _ _, _, opens, _, _, meant => opens _ _ meant
  | .alternation _, _, opens, _, _, meant => opens _ _ meant
  | .concatenation _, _, opens, _, _, meant => opens _ _ meant

/-- Characters and a repetition of one more begin with as many of them as have to be there. -/
theorem meanings_opens (bytes : mode.unicode = false) {last : Char} {repetition : Syntax}
    (repeats : repetition.repeated = .ofChar last) {later : List Syntax} {chars : List Char}
    (ascii : ∀ c ∈ chars ++ [last], c.toNat < 0x80) {count : Nat}
    (required : ((chars.map Syntax.ofChar ++ repetition :: later).take count).all
      Syntax.isRequired = true)
    {expressions : List Expression}
    (meant : Syntax.meanings mode (chars.map Syntax.ofChar ++ repetition :: later) =
      .ok (expressions, after)) :
    Opens (Expression.compileAll expressions)
      (((chars ++ [last]).take count).map (literalSet mode.caseless)) := by
  induction chars generalizing count expressions with
  | nil =>
      obtain ⟨first, between, rest, isFirst, _, rfl⟩ := meanings_cons meant
      cases count with
      | zero => exact fun _ _ _ => begins_nil _ _
      | succ count =>
          rw [List.map_nil, List.nil_append, List.take_succ_cons, List.all_cons,
            Bool.and_eq_true] at required
          rw [List.nil_append, List.take_succ_cons, List.take_nil]
          refine Expression.compileAll_opens (required_opens repetition required.1 ?_ isFirst) rest
          intro inner between isInner
          rw [repeats, ofChar_meaning bytes (ascii last List.mem_cons_self)] at isInner
          cases isInner
          have nothing : Opens (Expression.compileAll []) [] := fun _ _ _ => begins_nil _ _
          exact Expression.set_cons_opens nothing _
  | cons c chars ih =>
      obtain ⟨first, between, rest, isFirst, isRest, rfl⟩ := meanings_cons meant
      cases count with
      | zero => exact fun _ _ _ => begins_nil _ _
      | succ count =>
          rw [ofChar_meaning bytes (ascii c List.mem_cons_self)] at isFirst
          cases isFirst
          rw [List.map_cons, List.cons_append, List.take_succ_cons, List.all_cons,
            Bool.and_eq_true] at required
          exact Expression.set_cons_opens (ih (fun c member => ascii c
            (List.mem_cons_of_mem _ member)) required.2 isRest) _

/-! ## The bytes that the text begins with -/

theorem spanPlain_eq (chars : List Char) :
    spanPlain chars = ((chars.takeWhile isPlain).map fun c => UInt8.ofNat c.toNat,
      chars.dropWhile isPlain) := by
  induction chars with
  | nil => rfl
  | cons c chars ih =>
      rw [spanPlain, ih, List.takeWhile_cons, List.dropWhile_cons]
      by_cases plain : isPlain c = true
      · have own : (decide (c.toNat < 0x80) && !isRegexSpecial c) = true := plain
        rw [if_pos own, if_pos plain, if_pos plain]
        rfl
      · have meaning : ¬(decide (c.toNat < 0x80) && !isRegexSpecial c) = true := plain
        rw [if_neg meaning, if_neg plain, if_neg plain]
        rfl

/-- The bytes that count as the first ones belong to characters without a meaning. -/
theorem regexPrefix_within (source : String) :
    regexPrefix source <+: (plainStart source).map fun c => UInt8.ofNat c.toNat := by
  unfold regexPrefix
  split
  · exact List.nil_prefix
  · rw [spanPlain_eq]
    dsimp only
    split
    · exact List.dropLast_prefix _
    · exact List.dropLast_prefix _
    · exact List.dropLast_prefix _
    · exact List.prefix_refl _

theorem single_of_regexPrefix {source : String} (some : regexPrefix source ≠ []) :
    '|' ∉ source.toList := by
  intro member
  apply some
  unfold regexPrefix
  rw [if_pos (List.contains_iff_mem.mpr member)]

theorem take_regexPrefix (source : String) (limit : Nat) :
    (regexPrefix source).take limit =
      ((plainStart source).take (min limit (regexPrefix source).length)).map
        fun c => UInt8.ofNat c.toNat := by
  have whole := List.prefix_iff_eq_take.mp (regexPrefix_within source)
  calc
    (regexPrefix source).take limit =
        (((plainStart source).map fun c => UInt8.ofNat c.toNat).take
          (regexPrefix source).length).take limit := by rw [← whole]
    _ = _ := by rw [List.take_take, List.map_take]

theorem textStandsAt_of_standAt {caseless : Bool} {data : ByteArray} {chars : List Char}
    {offset : Nat} (stand : StandAt data (chars.map (literalSet caseless)) offset) :
    textStandsAt caseless false data (chars.map fun c => UInt8.ofNat c.toNat) offset = true := by
  induction chars generalizing offset with
  | nil => rfl
  | cons c chars ih =>
      obtain ⟨⟨byte, found, held⟩, following⟩ := stand
      obtain ⟨within, same⟩ := getElem?_eq_some_iff.mp found
      have equal : sameByte caseless byte (UInt8.ofNat c.toNat) = true := by
        unfold literalSet at held
        unfold sameByte
        cases caseless with
        | false => exact beq_iff_eq.mpr ((ByteSet.contains_singleton _ _).mp held)
        | true =>
            obtain ⟨member, isMember, equal⟩ := (ByteSet.contains_foldCase _ _).mp held
            rw [(ByteSet.contains_singleton _ _).mp isMember] at equal
            exact equal
      rw [List.map_cons, textStandsAt, dif_pos within, same, equal]
      exact ih following

/-! ## Where the first bytes have to be there -/

/-- The bytes that are taken for the first ones of an expression come from parts that no repetition
lets be left out, and from a group that none does. -/
def keepsPrefix (source : String) : Bool :=
  (regexPrefix source).isEmpty ||
    match parse (anchored source).toList with
    | .error _ => false
    | .ok written =>
      match written.parts with
      | _ :: front :: _ =>
        front.isRequired && (front.repeated.content.parts.take
          (min lengthLimit (regexPrefix source).length)).all Syntax.isRequired
      | _ => false

theorem compile_eq_ok {source : String} {caseless : Bool} {program : Program}
    (compiled : compile source caseless = .ok program) :
    ∃ written expression mode, parse (anchored source).toList = .ok written ∧
      written.meaning { caseless } = .ok (expression, mode) ∧ program = expression.program := by
  unfold compile at compiled
  obtain ⟨written, parsed, compiled⟩ := bind_eq_ok compiled
  dsimp only at compiled
  split at compiled
  · cases compiled
  · obtain ⟨⟨expression, mode⟩, meant, compiled⟩ := bind_eq_ok compiled
    dsimp only at compiled
    split at compiled
    · cases compiled
      exact ⟨written, expression, mode, parsed, meant, rfl⟩
    · cases compiled

theorem compile_ok {source : String} {caseless : Bool} {written : Syntax}
    (parsed : parse (anchored source).toList = .ok written) (shallow : written.depth ≤ depthLimit)
    (meant : written.meaning { caseless } = .ok (expression, mode))
    (fits : expression.layout.fits = true) : compile source caseless = .ok expression.program := by
  unfold compile
  simp only [parsed, meant, fits, if_neg (Nat.not_lt.mpr shallow), bind, Except.bind, if_true]
  rfl

theorem ofSource_eq {source : String} {caseless : Bool} {program : Program}
    (compiled : compile source caseless = .ok program) :
    ofSource source caseless = .ok ⟨source, program, compiled⟩ := by
  unfold ofSource
  split
  · rename_i other same
    cases compiled.symm.trans same
    rfl
  · rename_i fault same
    cases compiled.symm.trans same

theorem parts_of_repeated {part : Syntax} {c : Char} (same : part.repeated = .ofChar c) :
    part.parts = [part] := by
  cases part with
  | empty => cases same
  | concatenation parts => cases same
  | _ => rfl

theorem parts_ofParts {parts : List Syntax} (single : ∀ part, parts = [part] → part.parts = [part]) :
    (Syntax.ofParts parts).parts = parts := by
  unfold Syntax.ofParts
  split
  · rfl
  · exact single _ rfl
  · rfl

/-- What was read on top of some characters begins with them, and the last of them may be
repeated. -/
theorem reverse_of_grown {plain : List Char} (some : plain ≠ []) {inner : List Syntax}
    (grown : Grown (plain.map Syntax.ofChar).reverse inner) :
    ∃ chars last repetition later, plain = chars ++ [last] ∧
      repetition.repeated = .ofChar last ∧
      inner.reverse = chars.map Syntax.ofChar ++ repetition :: later := by
  rcases List.eq_nil_or_concat plain with nothing | ⟨chars, last, split⟩
  · exact absurd nothing some
  · rw [List.concat_eq_append] at split
    rw [split, List.map_append, List.reverse_append] at grown
    obtain ⟨later, repetition, rfl, repeats⟩ :=
      grown (.ofChar last) (chars.map Syntax.ofChar).reverse rfl
    refine ⟨chars, last, repetition, later.reverse, split, repeats, ?_⟩
    rw [List.reverse_append, List.reverse_cons, List.reverse_reverse, List.append_assoc]
    rfl

theorem parts_of_content {chars : List Char} {last : Char} {repetition : Syntax}
    (repeats : repetition.repeated = .ofChar last) (later : List Syntax) :
    (Syntax.ofParts (chars.map Syntax.ofChar ++ repetition :: later)).parts =
      chars.map Syntax.ofChar ++ repetition :: later := by
  refine parts_ofParts ?_
  intro part alone
  cases chars with
  | nil =>
      cases alone
      exact parts_of_repeated repeats
  | cons c chars =>
      have nothing := (List.append_eq_nil_iff.mp (List.cons.inj alone).2).2
      cases nothing

/-- Where a group that has to be there holds characters and a repetition of one more, an expression
of it behind an anchor begins with as many of them as have to be there. -/
theorem anchored_opens {caseless : Bool} {front : Syntax} {rest later : List Syntax}
    {chars : List Char} {last : Char} {repetition : Syntax}
    (meant : (Syntax.ofParts (.anchor .startLine :: front :: rest)).meaning { caseless } =
      .ok (expression, after))
    (kept : front.isRequired = true)
    (group : front.repeated =
      .group false [] (.ofParts (chars.map Syntax.ofChar ++ repetition :: later)))
    (repeats : repetition.repeated = .ofChar last)
    (ascii : ∀ c ∈ chars ++ [last], c.toNat < 0x80) {count : Nat}
    (required : ((chars.map Syntax.ofChar ++ repetition :: later).take count).all
      Syntax.isRequired = true) :
    Opens expression.compile (((chars ++ [last]).take count).map (literalSet caseless)) := by
  obtain ⟨expressions, isMeant, compiled⟩ := ofParts_meaning meant
  obtain ⟨anchor, between, others, isAnchor, isRest, rfl⟩ := meanings_cons isMeant
  rw [Syntax.meaning] at isAnchor
  cases isAnchor
  obtain ⟨first, _, others, isFirst, _, rfl⟩ := meanings_cons isRest
  rw [compiled]
  apply Expression.look_cons_opens
  refine Expression.compileAll_opens (required_opens front kept ?_ isFirst) others
  intro grouped _ isGrouped
  rw [group, Syntax.meaning] at isGrouped
  obtain ⟨⟨inside, _⟩, isInside, isGrouped⟩ := bind_eq_ok isGrouped
  cases isGrouped
  obtain ⟨_, isMeant, compiled⟩ := ofParts_meaning isInside
  have begun := meanings_opens rfl repeats ascii required isMeant
  rw [← compiled] at begun
  exact begun

/-- Where none of them may be left out, the bytes that are taken for the first ones of an
expression stand at each of its matches. -/
theorem prefix_stands {caseless : Bool} {regex : Regex caseless}
    (kept : keepsPrefix regex.source = true) {data : ByteArray} {offset stop : Nat}
    (found : regex.program.matchEnd? data offset = some stop) :
    textStandsAt caseless false data ((regexPrefix regex.source).take lengthLimit) offset = true := by
  by_cases none : regexPrefix regex.source = []
  · rw [none]
    rfl
  · obtain ⟨written, expression, mode, parsed, meant, same⟩ := compile_eq_ok regex.compiles
    obtain ⟨front, rest, inner, rfl, group, grown⟩ :=
      parse_anchored (single_of_regexPrefix none) parsed
    have some : plainStart regex.source ≠ [] := by
      intro nothing
      have within := regexPrefix_within regex.source
      rw [nothing] at within
      exact none (List.prefix_nil.mp within)
    obtain ⟨chars, last, repetition, later, plain, repeats, content⟩ := reverse_of_grown some grown
    rw [content] at group
    have ascii : ∀ c ∈ chars ++ [last], c.toNat < 0x80 := by
      intro c member
      rw [← plain] at member
      have own := List.all_eq_true.mp List.all_takeWhile c member
      exact of_decide_eq_true (Bool.and_eq_true_iff.mp own).1
    have required : front.isRequired = true ∧ ((chars.map Syntax.ofChar ++ repetition :: later).take
        (min lengthLimit (regexPrefix regex.source).length)).all Syntax.isRequired = true := by
      unfold keepsPrefix at kept
      rw [parsed, List.isEmpty_eq_false_iff.mpr none, Bool.false_or] at kept
      have held := Bool.and_eq_true_iff.mp kept
      rw [group, Syntax.content, parts_of_content repeats later] at held
      exact held
    have opens := anchored_opens meant required.1 group repeats ascii required.2
    rw [take_regexPrefix, plain]
    rw [same] at found
    exact textStandsAt_of_standAt (Expression.standAt_of_matchEnd? opens found)

end Regex

end ByteScan
