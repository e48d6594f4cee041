import ByteScan.Process.Mapping
import ByteScan.Proofs.Text.Fields
import ByteScan.Proofs.Text.Numerals

/-!
# Lines of mapped memory

The system lists each range of mapped memory in a line of its own. `Mapping.line` writes the line that the
system does, and the main statement tells what is read from it: `ofLine?_line_exact`. Everything is read as
it was written, but of the blanks in a path only single spaces are kept.
-/

namespace ByteScan

/-- How a line is written, and what stands in it besides the mapping. -/
structure LineStyle where
  startWidth : Nat
  stopWidth : Nat
  offsetWidth : Nat
  /-- What is written to the memory is seen by others. -/
  shared : Bool
  device : String
  inode : String
  padding : Nat
  device_isField : Text.IsField device.toList
  inode_isField : Text.IsField inode.toList

namespace Mapping

def lineEnd (padding : Nat) : Option String → List Char
  | none => List.replicate padding ' '
  | some path => List.replicate padding ' ' ++ ' ' :: path.toList

/-- The line that the system writes for a mapping. -/
def line (mapping : Mapping) (style : LineStyle) : String :=
  Text.hexPadded style.startWidth mapping.start.toNat ++ "-" ++
    Text.hexPadded style.stopWidth mapping.stop.toNat ++ " " ++
    mapping.protection.text ++ (if style.shared then "s" else "p") ++ " " ++
    Text.hexPadded style.offsetWidth mapping.offset.toNat ++ " " ++
    style.device ++ " " ++ style.inode ++ String.ofList (lineEnd style.padding mapping.path)

variable {mapping : Mapping} {style : LineStyle}

/-! ## Fields of a line -/

theorem isField_hexPadded (width number : Nat) :
    Text.IsField (Text.hexPadded width number).toList where
  nonempty := (Text.isUnsigned_hexPadded width number).ne_nil
  solid := (Text.isUnsigned_hexPadded width number).notBlank

def rangeField (mapping : Mapping) (style : LineStyle) : List Char :=
  (Text.hexPadded style.startWidth mapping.start.toNat).toList ++
    '-' :: (Text.hexPadded style.stopWidth mapping.stop.toNat).toList

def rightsField (mapping : Mapping) (style : LineStyle) : List Char :=
  mapping.protection.text.toList ++ [if style.shared then 's' else 'p']

theorem isField_rangeField (mapping : Mapping) (style : LineStyle) :
    Text.IsField (mapping.rangeField style) where
  nonempty := List.append_ne_nil_of_right_ne_nil _ (List.cons_ne_nil _ _)
  solid c member := by
    rcases List.mem_append.mp member with inStart | later
    · exact (isField_hexPadded _ _).solid c inStart
    · rcases List.mem_cons.mp later with rfl | inStop
      · rfl
      · exact (isField_hexPadded _ _).solid c inStop

theorem rightsField_eq (mapping : Mapping) (style : LineStyle) :
    mapping.rightsField style =
      [Protection.letter mapping.protection.readable 'r',
        Protection.letter mapping.protection.writable 'w',
        Protection.letter mapping.protection.executable 'x', if style.shared then 's' else 'p'] := by
  rw [rightsField, Protection.text, String.toList_ofList]
  rfl

theorem isBlank_letter (given : Bool) {name : Char} (solid : Text.isBlank name = false) :
    Text.isBlank (Protection.letter given name) = false := by
  cases given
  · rfl
  · exact solid

theorem isField_rightsField (mapping : Mapping) (style : LineStyle) :
    Text.IsField (mapping.rightsField style) := by
  rw [rightsField_eq]
  refine ⟨List.cons_ne_nil _ _, ?_⟩
  simp only [List.forall_mem_cons]
  refine ⟨isBlank_letter _ rfl, isBlank_letter _ rfl, isBlank_letter _ rfl, ?_,
    List.forall_mem_nil _⟩
  cases style.shared <;> rfl

theorem lineEnd_head (padding : Nat) (path : Option String) :
    ∀ c ∈ (lineEnd padding path).head?, Text.isBlank c = true := by
  cases path <;> cases padding <;> rintro c ⟨⟩ <;> rfl

theorem fields_lineEnd (padding : Nat) (path : Option String) :
    Text.fields (lineEnd padding path) = (path.map fun path => Text.fields path.toList).getD [] := by
  cases path with
  | none =>
      have blanks := Text.fields_blanks padding []
      rwa [List.append_nil, Text.fields_nil] at blanks
  | some path =>
      rw [lineEnd, Text.fields_blanks, Text.fields_cons_blank rfl]
      rfl

theorem fields_line (mapping : Mapping) (style : LineStyle) :
    Text.fields (mapping.line style).toList =
      mapping.rangeField style :: mapping.rightsField style ::
        (Text.hexPadded style.offsetWidth mapping.offset.toNat).toList ::
        style.device.toList :: style.inode.toList ::
        (mapping.path.map fun path => Text.fields path.toList).getD [] := by
  have parts : (mapping.line style).toList =
      mapping.rangeField style ++ ' ' :: (mapping.rightsField style ++
        ' ' :: ((Text.hexPadded style.offsetWidth mapping.offset.toNat).toList ++
        ' ' :: (style.device.toList ++ ' ' :: (style.inode.toList ++
        lineEnd style.padding mapping.path)))) := by
    rw [rangeField, rightsField]
    cases shared : style.shared <;> simp [line, shared]
  rw [parts, Text.fields_append_blank (isField_rangeField mapping style) rfl,
    Text.fields_append_blank (isField_rightsField mapping style) rfl,
    Text.fields_append_blank (isField_hexPadded _ _) rfl,
    Text.fields_append_blank style.device_isField rfl,
    Text.fields_append style.inode_isField (lineEnd_head _ _), fields_lineEnd]

/-! ## Reading a line -/

theorem address?_hexPadded (width : Nat) (address : UInt64) :
    address? (Text.hexPadded width address.toNat).toList = some address := by
  have fits : address.toNat ≤ UInt64.size - 1 := Nat.le_sub_one_of_lt address.toNat_lt
  have read : Text.readUnsigned 16 (UInt64.size - 1) (Text.hexPadded width address.toNat) =
      .ok address.toNat :=
    (Text.readUnsigned_eq_ok_iff (by decide)).mpr ⟨Text.isUnsigned_hexPadded width _, fits⟩
  rw [address?, String.ofList_toList, read]
  exact congrArg some UInt64.ofNat_toNat

/-- A range is split between its addresses, since a number has no dash. -/
theorem splitRange?_rangeField (mapping : Mapping) (style : LineStyle) :
    splitRange? (mapping.rangeField style) =
      some ((Text.hexPadded style.startWidth mapping.start.toNat).toList,
        (Text.hexPadded style.stopWidth mapping.stop.toNat).toList) := by
  have noDash : ∀ c ∈ (Text.hexPadded style.startWidth mapping.start.toNat).toList,
      (c != '-') = true := by
    intro c member
    refine bne_iff_ne.mpr ?_
    rintro rfl
    exact (Text.isUnsigned_hexPadded _ _).notMem (by decide) (Text.digitValue?_minus 16) member
  rw [splitRange?, rangeField, List.dropWhile_append_of_pos noDash,
    List.takeWhile_append_of_pos noDash]
  exact congrArg (fun low => some (low, _)) (List.append_nil _)

theorem ofChars_rightsField (mapping : Mapping) (style : LineStyle) :
    Protection.ofChars (mapping.rightsField style) = mapping.protection := by
  rw [rightsField_eq]
  obtain ⟨readable, writable, executable⟩ := mapping.protection
  cases readable <;> cases writable <;> cases executable <;> rfl

theorem intercalate_ofList (words : List (List Char)) :
    " ".intercalate (words.map String.ofList) = String.ofList (Text.join words) := by
  rw [← String.toList_inj, String.toList_intercalate, String.toList_ofList, List.map_map]
  simp [Text.join, Function.comp_def]

theorem pathOf_fields (text : List Char) :
    pathOf (Text.fields text) =
      if Text.fields text = [] then none else some (String.ofList (Text.join (Text.fields text))) := by
  rw [pathOf, intercalate_ofList]
  by_cases none : Text.fields text = []
  · rw [if_pos none, none]
    rfl
  · have joined := (Text.isEven_join none (Text.isField_of_mem_fields text)).nonempty
    rw [if_neg none]
    refine if_neg fun isEmpty => joined ?_
    simpa using isEmpty

/-- A path is read as it was written if its blanks are single spaces. -/
theorem pathOf_fields_eq_iff {path : String} :
    pathOf (Text.fields path.toList) = some path ↔ Text.IsEven path.toList := by
  rw [pathOf_fields]
  constructor
  · intro same
    split at same
    · cases same
    · rename_i isSome
      have nonempty : path.toList ≠ [] := by
        intro empty
        rw [empty, Text.fields_nil] at isSome
        exact isSome rfl
      have joined := congrArg String.toList (Option.some.inj same)
      rw [String.toList_ofList] at joined
      exact (Text.join_fields_eq_iff nonempty).mp joined
  · intro isEven
    have rejoined := isEven.join_fields
    have isSome : Text.fields path.toList ≠ [] := by
      intro none
      rw [none] at rejoined
      exact isEven.nonempty rejoined.symm
    rw [if_neg isSome, rejoined, String.ofList_toList]

theorem ofLine?_line (mapping : Mapping) (style : LineStyle) :
    ofLine? (mapping.line style) =
      some { mapping with
        path := mapping.path.bind fun path => pathOf (Text.fields path.toList) } := by
  have path : pathOf ((mapping.path.map fun path => Text.fields path.toList).getD []) =
      mapping.path.bind fun path => pathOf (Text.fields path.toList) := by
    cases mapping.path <;> rfl
  rw [ofLine?, fields_line]
  dsimp only
  rw [splitRange?_rangeField]
  simp only [Option.bind_eq_bind, Option.bind_some, address?_hexPadded, mapping.start_le_stop,
    dif_pos, ofChars_rightsField, path]

/-- A line that the system writes for a mapping is read with the same addresses, the same rights and the
same offset, and its size is the distance of the addresses. A path is read as its fields with a space
between each two of them, so the mapping is read as it was written if the path has no other blanks. -/
theorem ofLine?_line_exact (mapping : Mapping) (style : LineStyle) :
    ∃ read, ofLine? (mapping.line style) = some read ∧
      read.start = mapping.start ∧ read.stop = mapping.stop ∧
      read.protection = mapping.protection ∧ read.offset = mapping.offset ∧
      read.size.toNat + mapping.start.toNat = mapping.stop.toNat ∧
      (read.path = mapping.path.bind fun path =>
        if Text.fields path.toList = [] then none
        else some (String.ofList (Text.join (Text.fields path.toList)))) ∧
      (read = mapping ↔ ∀ path ∈ mapping.path, Text.IsEven path.toList) := by
  refine ⟨_, ofLine?_line mapping style, rfl, rfl, rfl, rfl, ?_, ?_, ?_⟩
  · have ordered := UInt64.le_iff_toNat_le.mp mapping.start_le_stop
    rw [size, UInt64.toNat_sub_of_le _ _ mapping.start_le_stop]
    exact Nat.sub_add_cancel ordered
  · simp only [pathOf_fields]
  · obtain ⟨start, stop, protection, offset, path, ordered⟩ := mapping
    rw [mk.injEq]
    cases path with
    | none => simp
    | some path => simp [pathOf_fields_eq_iff]

/-- A file whose name has single spaces in it, and which has been removed. -/
theorem ofLine?_line_spaces :
    let mapping : Mapping :=
      ⟨0x1000, 0x2000, ⟨true, false, true⟩, 0x3000, some "/my file (deleted)", by decide⟩
    let style : LineStyle :=
      ⟨4, 8, 8, false, "fd:01", "1311", 3, ⟨by decide, by simp [Text.isBlank]⟩,
        ⟨by decide, by simp [Text.isBlank]⟩⟩
    mapping.line style = "1000-00002000 r-xp 00003000 fd:01 1311    /my file (deleted)" ∧
      ofLine? (mapping.line style) = some mapping := by
  intro mapping style
  obtain ⟨read, isRead, -, -, -, -, -, -, same⟩ := ofLine?_line_exact mapping style
  refine ⟨by decide +kernel, ?_⟩
  rw [isRead, same.mpr ?_]
  rintro _ ⟨⟩
  exact (Text.join_fields_eq_iff (by decide)).mp (by decide +kernel)

/-- Two spaces in a row in the name of a file are read as one. -/
theorem ofLine?_line_squeezed :
    let mapping : Mapping := ⟨0x1000, 0x2000, ⟨true, false, false⟩, 0, some "/a  b", by decide⟩
    let style : LineStyle :=
      ⟨4, 4, 1, false, "00:00", "1", 0, ⟨by decide, by simp [Text.isBlank]⟩,
        ⟨by decide, by simp [Text.isBlank]⟩⟩
    mapping.line style = "1000-2000 r--p 0 00:00 1 /a  b" ∧
      ofLine? (mapping.line style) = some { mapping with path := some "/a b" } := by
  intro mapping style
  have squeezed : pathOf (Text.fields "/a  b".toList) = some "/a b" := by decide +kernel
  refine ⟨by decide +kernel, ?_⟩
  rw [ofLine?_line]
  exact congrArg (fun path => some { mapping with path }) squeezed

end Mapping

end ByteScan
