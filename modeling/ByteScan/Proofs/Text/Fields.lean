import ByteScan.Text.Blank
import Mathlib.Data.List.Chain

/-!
# Fields of a text

A text is split at its blanks into fields. Not every text is its fields with a space between each two of
them, and `join_fields_eq_iff` tells which texts are.
-/

namespace ByteScan.Text

structure IsField (text : List Char) : Prop where
  nonempty : text ≠ []
  solid : ∀ c ∈ text, isBlank c = false

def join (words : List (List Char)) : List Char := [' '].intercalate words

/-- Blanks stand only between other characters of a text, and all of them are single spaces. -/
structure IsEven (text : List Char) : Prop where
  nonempty : text ≠ []
  starts : ∀ c ∈ text.head?, isBlank c = false
  ends : ∀ c ∈ text.getLast?, isBlank c = false
  spaces : ∀ c ∈ text, isBlank c = true → c = ' '
  apart : text.IsChain fun c next => isBlank c = false ∨ isBlank next = false

variable {c : Char} {text rest word : List Char} {words : List (List Char)}

/-! ## Splitting -/

theorem fields_nil : fields [] = [] := by rw [fields]

theorem fields_cons_blank (blank : isBlank c = true) : fields (c :: rest) = fields rest := by
  rw [fields, if_pos blank]

theorem fields_cons_solid (solid : isBlank c = false) :
    fields (c :: rest) = (c :: (spanField rest).1) :: fields (spanField rest).2 := by
  rw [fields, if_neg (by rw [solid]; exact Bool.false_ne_true)]

theorem spanField_append (solid : ∀ c ∈ word, isBlank c = false)
    (ends : ∀ c ∈ rest.head?, isBlank c = true) : spanField (word ++ rest) = (word, rest) := by
  induction word with
  | nil =>
      cases rest with
      | nil => rfl
      | cons c rest => exact if_pos (ends c rfl)
  | cons c word ih =>
      rw [List.forall_mem_cons] at solid
      rw [List.cons_append, spanField, ih solid.2, solid.1]
      rfl

/-- A field in front of a blank or at the end is taken off as a whole. -/
theorem fields_append (isField : IsField word) (ends : ∀ c ∈ rest.head?, isBlank c = true) :
    fields (word ++ rest) = word :: fields rest := by
  obtain ⟨c, word, rfl⟩ := List.exists_cons_of_ne_nil isField.nonempty
  obtain ⟨solid, others⟩ := List.forall_mem_cons.mp isField.solid
  rw [List.cons_append, fields_cons_solid solid, spanField_append others ends]

theorem IsField.fields_eq (isField : IsField word) : fields word = [word] := by
  have only : fields (word ++ []) = word :: fields [] := fields_append isField nofun
  rwa [List.append_nil, fields_nil] at only

theorem fields_append_blank (isField : IsField word) (blank : isBlank c = true)
    (rest : List Char) : fields (word ++ c :: rest) = word :: fields rest := by
  have ends : ∀ first ∈ (c :: rest).head?, isBlank first = true := by
    rintro _ ⟨⟩
    exact blank
  rw [fields_append isField ends, fields_cons_blank blank]

theorem fields_blanks (count : Nat) (rest : List Char) :
    fields (List.replicate count ' ' ++ rest) = fields rest := by
  induction count with
  | zero => rfl
  | succ count ih => rw [List.replicate_succ, List.cons_append, fields_cons_blank rfl, ih]

theorem spanField_eq (text : List Char) : (spanField text).1 ++ (spanField text).2 = text := by
  induction text with
  | nil => rfl
  | cons c text ih =>
      rw [spanField]
      split
      · rfl
      · rw [List.cons_append, ih]

theorem spanField_solid (text : List Char) : ∀ c ∈ (spanField text).1, isBlank c = false := by
  induction text with
  | nil => exact List.forall_mem_nil _
  | cons c text ih =>
      rw [spanField]
      split
      · exact List.forall_mem_nil _
      · rename_i solid
        exact List.forall_mem_cons.mpr ⟨Bool.eq_false_iff.mpr solid, ih⟩

theorem spanField_ends (text : List Char) : ∀ c ∈ (spanField text).2.head?, isBlank c = true := by
  induction text with
  | nil => exact nofun
  | cons c text ih =>
      rw [spanField]
      split
      · rename_i blank
        rintro _ ⟨⟩
        exact blank
      · exact ih

theorem isField_spanField {text : List Char} (starts : ∀ c ∈ text.head?, isBlank c = false)
    (nonempty : text ≠ []) : IsField (spanField text).1 := by
  refine ⟨?_, spanField_solid text⟩
  obtain ⟨c, text, rfl⟩ := List.exists_cons_of_ne_nil nonempty
  rw [spanField, starts c rfl]
  exact List.cons_ne_nil _ _

theorem isField_of_mem_fields (text : List Char) : ∀ word ∈ fields text, IsField word := by
  induction text using fields.induct with
  | case1 =>
      rw [fields_nil]
      exact List.forall_mem_nil _
  | case2 c text blank ih =>
      rw [fields_cons_blank blank]
      exact ih
  | case3 c text solid ih =>
      have starts : isBlank c = false := Bool.eq_false_iff.mpr solid
      rw [fields_cons_solid starts]
      refine List.forall_mem_cons.mpr ⟨⟨List.cons_ne_nil _ _, ?_⟩, ih⟩
      exact List.forall_mem_cons.mpr ⟨starts, spanField_solid text⟩

/-! ## Joining -/

theorem join_singleton (word : List Char) : join [word] = word := List.intercalate_singleton

theorem join_cons (word : List Char) (some : words ≠ []) :
    join (word :: words) = word ++ ' ' :: join words := by
  rw [join, List.intercalate_cons_of_ne_nil some, List.append_assoc]
  rfl

/-! ## Texts with single spaces -/

theorem IsField.isEven (isField : IsField word) : IsEven word where
  nonempty := isField.nonempty
  starts c isFirst := isField.solid c (List.mem_of_mem_head? isFirst)
  ends c isLast := isField.solid c (List.mem_of_mem_getLast? isLast)
  spaces c member blank := by
    rw [isField.solid c member] at blank
    cases blank
  apart := by
    refine (List.pairwise_of_forall_mem_list fun c member _ _ => ?_).isChain
    exact .inl (isField.solid c member)

theorem IsEven.append (isField : IsField word) (isEven : IsEven rest) :
    IsEven (word ++ ' ' :: rest) where
  nonempty := List.append_ne_nil_of_left_ne_nil isField.nonempty _
  starts c isFirst := by
    rw [List.head?_append_of_ne_nil _ isField.nonempty] at isFirst
    exact isField.solid c (List.mem_of_mem_head? isFirst)
  ends c isLast := by
    rw [List.getLast?_append_cons, List.getLast?_cons_of_ne_nil isEven.nonempty] at isLast
    exact isEven.ends c isLast
  spaces c member blank := by
    rcases List.mem_append.mp member with inWord | later
    · exact isField.isEven.spaces c inWord blank
    · rcases List.mem_cons.mp later with isSpace | inRest
      · exact isSpace
      · exact isEven.spaces c inRest blank
  apart := by
    refine List.isChain_append.mpr ⟨isField.isEven.apart, ?_, ?_⟩
    · refine List.isChain_cons.mpr ⟨?_, isEven.apart⟩
      intro c isFirst
      exact .inr (isEven.starts c isFirst)
    · intro c isLast _ _
      exact .inl (isField.isEven.ends c isLast)

theorem isEven_join (some : words ≠ []) (areFields : ∀ word ∈ words, IsField word) :
    IsEven (join words) := by
  induction words with
  | nil => exact absurd rfl some
  | cons word words ih =>
      obtain ⟨isField, others⟩ := List.forall_mem_cons.mp areFields
      by_cases single : words = []
      · rw [single, join_singleton]
        exact isField.isEven
      · rw [join_cons word single]
        exact .append isField (ih single others)

theorem IsEven.of_append (isEven : IsEven (word ++ ' ' :: rest)) : IsEven rest := by
  have chain := isEven.apart.right_of_append
  have nonempty : rest ≠ [] := by
    rintro rfl
    cases isEven.ends ' ' List.getLast?_concat
  refine ⟨nonempty, ?_, ?_, ?_, chain.tail⟩
  · intro c isFirst
    exact ((List.isChain_cons.mp chain).1 c isFirst).resolve_left (by decide)
  · intro c isLast
    refine isEven.ends c ?_
    rwa [List.getLast?_append_cons, List.getLast?_cons_of_ne_nil nonempty]
  · intro c member
    exact isEven.spaces c (List.mem_append_right _ (List.mem_cons_of_mem _ member))

theorem IsEven.split (isEven : IsEven text) : IsField text ∨
    ∃ word rest, IsField word ∧ text = word ++ ' ' :: rest := by
  have isField := isField_spanField isEven.starts isEven.nonempty
  have parts := spanField_eq text
  cases more : (spanField text).2 with
  | nil =>
      rw [more, List.append_nil] at parts
      exact .inl (parts ▸ isField)
  | cons c rest =>
      have blank : isBlank c = true := spanField_ends text c (by rw [more]; rfl)
      rw [more] at parts
      have isSpace : c = ' ' := isEven.spaces c (parts ▸ List.mem_append_cons_self) blank
      exact .inr ⟨_, rest, isField, isSpace ▸ parts.symm⟩

theorem IsEven.join_fields (isEven : IsEven text) : join (fields text) = text := by
  induction length : text.length using Nat.strong_induction_on generalizing text with
  | _ _ ih =>
      rcases isEven.split with isField | ⟨word, rest, isField, rfl⟩
      · rw [isField.fields_eq, join_singleton]
      · have shorter : rest.length < (word ++ ' ' :: rest).length := by
          rw [List.length_append, List.length_cons]
          omega
        have rejoined := ih _ (length ▸ shorter) isEven.of_append rfl
        have some : fields rest ≠ [] := by
          intro none
          rw [none] at rejoined
          exact isEven.of_append.nonempty rejoined.symm
        rw [fields_append_blank isField rfl, join_cons word some, rejoined]

/-- The fields of a text, with a space between each two of them, are the text again if it is even. -/
theorem join_fields_eq_iff (nonempty : text ≠ []) : join (fields text) = text ↔ IsEven text := by
  constructor
  · intro same
    have some : fields text ≠ [] := by
      intro none
      rw [none] at same
      exact nonempty same.symm
    exact same ▸ isEven_join some (isField_of_mem_fields text)
  · exact IsEven.join_fields

end ByteScan.Text
