/-!
# Blank characters

Where text is split into fields or its blanks are ignored, a blank is any character with the
Unicode property White_Space, not only the ASCII ones.
-/

namespace ByteScan.Text

/-- The character has the Unicode property White_Space. -/
def isBlank (c : Char) : Bool :=
  let code := c.toNat
  (0x09 ≤ code && code ≤ 0x0d) || code == 0x20 || code == 0x85 || code == 0xa0 ||
    code == 0x1680 || (0x2000 ≤ code && code ≤ 0x200a) || code == 0x2028 || code == 0x2029 ||
    code == 0x202f || code == 0x205f || code == 0x3000

def spanField : List Char → List Char × List Char
  | [] => ([], [])
  | c :: rest =>
    if isBlank c then ([], c :: rest)
    else (c :: (spanField rest).1, (spanField rest).2)

theorem spanField_length (cs : List Char) : (spanField cs).2.length ≤ cs.length := by
  induction cs with
  | nil => simp [spanField]
  | cons c rest ih =>
    unfold spanField
    split
    · simp
    · simp only [List.length_cons]; omega

/-- The maximal runs of characters that are not blank, in order. -/
def fields : List Char → List (List Char)
  | [] => []
  | c :: rest =>
    if isBlank c then fields rest
    else (c :: (spanField rest).1) :: fields (spanField rest).2
termination_by cs => cs.length
decreasing_by
  · simp
  · have := spanField_length rest; simp only [List.length_cons]; omega

end ByteScan.Text
