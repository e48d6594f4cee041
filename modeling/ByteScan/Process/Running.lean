import ByteScan.Process.Mapping
import ByteScan.Scan.Run

/-!
# Processes

A process is seen as the list of its mapped memory and a way to read from it. All memory that can
be read makes the blocks of one scan; ranges that vanish before they are read are left out.
-/

namespace ByteScan

structure RunningProcess where
  lines : List String
  /-- The bytes at an address, if that many can be read there. -/
  read? : UInt64 → Nat → Option ByteArray

namespace RunningProcess

/-- Ranges that are listed but cannot be read. -/
def hiddenNames : List String := ["[vvar]", "[vsyscall]", "[vvar_vclock]"]

def isWanted (mapping : Mapping) : Bool :=
  mapping.protection.readable && mapping.size != 0 &&
    !(mapping.path.any fun path => hiddenNames.contains path)

def mappings? (process : RunningProcess) : Option (List Mapping) :=
  (process.lines.filter fun line => !line.toList.all Text.isBlank).mapM Mapping.ofLine?

def blocks? (process : RunningProcess) : Option (List Block) :=
  process.mappings?.map fun mappings =>
    (mappings.filter isWanted).filterMap fun mapping =>
      (process.read? mapping.start mapping.size.toNat).map fun data => ⟨mapping.start, data⟩

end RunningProcess

namespace Scan

def runOnProcess (rules : RuleSet) (number : Nat) (process? : Option RunningProcess)
    (flags : ScanFlags) (timeout : Nanoseconds) (clock : Clock) (listener : Listener σ) :
    SharedM σ (Except Error Unit) :=
  match process?.bind RunningProcess.blocks? with
  | some blocks => run rules blocks { flags with processMemory := true } timeout clock listener
  | none => pure (.error (.cannotAttach number))

end Scan

end ByteScan
