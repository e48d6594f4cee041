import ByteScan.FileTree
import ByteScan.RuleFile.Reader
import ByteScan.RuleFile.Writer
import ByteScan.Scan.Run

/-!
# Stored rule sets and data

Rule sets are loaded from files and saved to files, and the data to scan may be a file.
-/

namespace ByteScan

namespace RuleSet

def load (tree : FileTree) (path : String) : Except Error RuleSet :=
  match tree.find path with
  | .error fault => .error (.cannotOpen fault)
  | .ok (_, .directory) => .error (.corrupt (.unreadable .isDirectory))
  | .ok (_, .file content) => RuleFile.read content.toList

/-- The bytes that a rule set is saved as. A rule set must not be saved while a scan of it is running:
then there is no result, since the program breaks off. -/
def saved? (rules : RuleSet) (slots : Slots) : Option (List UInt8) :=
  if slots = .empty then some (RuleFile.write rules) else none

/-- Saves a rule set to a file; gives the result, if there is one, and the files afterwards. The file is
made first, so that an empty one is left where the program breaks off. -/
def save (rules : RuleSet) (slots : Slots) (tree : FileTree) (path : String) :
    Option (Except Error Unit) × FileTree :=
  let saved := rules.saved? slots
  match tree.write path ⟨(saved.getD []).toArray⟩ with
  | .ok tree => (saved.map fun _ => .ok (), tree)
  | .error fault => (some (.error (.cannotOpen fault)), tree)

theorem isSome_save_idle (rules : RuleSet) (tree : FileTree) (path : String) :
    (rules.save .empty tree path).1.isSome := by
  rw [save, saved?, if_pos rfl]
  cases tree.write path ⟨((some (RuleFile.write rules)).getD []).toArray⟩ <;> rfl

end RuleSet

namespace Scan

def dataAt (tree : FileTree) (path : String) : Except Error ByteArray :=
  match tree.find path with
  | .error fault => .error (.cannotOpen fault)
  | .ok (_, .directory) => .error .unreachableData
  | .ok (_, .file content) => .ok content

def runOnFile (rules : RuleSet) (tree : FileTree) (path : String) (flags : ScanFlags)
    (timeout : Nanoseconds) (clock : Clock) (listener : Listener σ) :
    SharedM σ (Except Error Unit) :=
  match dataAt tree path with
  | .ok data => runOnData rules data flags timeout clock listener
  | .error error => pure (.error error)

end Scan

end ByteScan
