import ByteScan.Regex.Footprint
import ByteScan.Regex.Matcher
import ByteScan.Regex.Meaning
import ByteScan.Regex.Parser

/-!
# Regular expressions

A regular expression is kept with the program that matches it, and the program is always the one
for its text. It is matched where it is asked for and nowhere else, so an expression is compiled as
if it stood in a group behind an anchor for the start of the text.
-/

namespace ByteScan

namespace Regex

/-- The text that is compiled: the expression in a group, anchored at the start. -/
def anchored (source : String) : String := "^(?:" ++ source ++ ")"

def compile (source : String) (caseless : Bool) : Except Fault Program := do
  let written ← parse (anchored source).toList
  if depthLimit < written.depth then throw .nesting
  let (expression, _) ← written.meaning { caseless }
  unless expression.layout.fits do throw .size
  return expression.program

end Regex

structure Regex (caseless : Bool) where
  source : String
  program : Regex.Program
  compiles : Regex.compile source caseless = .ok program

namespace Regex

def ofSource (source : String) (caseless : Bool) : Except Fault (Regex caseless) :=
  match h : compile source caseless with
  | .ok program => .ok ⟨source, program, h⟩
  | .error fault => .error fault

/-- How many bytes the preferred match that begins at a position takes. -/
def matchLength? (regex : Regex caseless) (data : ByteArray) (start : Nat) : Option Nat :=
  (regex.program.matchEnd? data start).map (· - start)

end Regex

end ByteScan
