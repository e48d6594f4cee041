import ByteScan.Json.Decoder
import ByteScan.Json.Reader
import ByteScan.Json.Writer
import ByteScan.RuleSet.Basic
import ByteScan.Scan.Context

/-!
# Scan settings

How scans are to be done when nothing else is said, and the values of external variables. Settings
are read from JSON, where every entry may be left out.
-/

namespace ByteScan

open Json

/-- Texts under names that stand in their order, each of them once. -/
structure NamedTexts where
  entries : List (String × String)
  ordered : entries.Pairwise (·.1 < ·.1)
  deriving DecidableEq, Repr

namespace NamedTexts

instance : EmptyCollection NamedTexts := ⟨⟨[], .nil⟩⟩

instance : Inhabited NamedTexts := ⟨∅⟩

/-- Gives a name a text, in place of the one that it has; names stay in their order. -/
def insertEntry (name text : String) : List (String × String) → List (String × String)
  | [] => [(name, text)]
  | (other, kept) :: rest =>
    if name = other then (name, text) :: rest
    else if name < other then (name, text) :: (other, kept) :: rest
    else (other, kept) :: insertEntry name text rest

theorem mem_insertEntry {name text : String} {entries : List (String × String)}
    {entry : String × String} (member : entry ∈ insertEntry name text entries) :
    entry = (name, text) ∨ entry ∈ entries := by
  induction entries with
  | nil => exact .inl (List.mem_singleton.mp member)
  | cons first entries ih =>
      rw [insertEntry] at member
      split at member
      · exact (List.mem_cons.mp member).imp_right (List.mem_cons_of_mem _)
      · split at member
        · exact List.mem_cons.mp member
        · rcases List.mem_cons.mp member with isFirst | later
          · exact .inr (List.mem_cons.mpr (.inl isFirst))
          · exact (ih later).imp_right (List.mem_cons_of_mem _)

theorem pairwise_insertEntry {entries : List (String × String)}
    (ordered : entries.Pairwise (·.1 < ·.1)) (name text : String) :
    (insertEntry name text entries).Pairwise (·.1 < ·.1) := by
  induction entries with
  | nil => exact List.pairwise_singleton _ _
  | cons first entries ih =>
      obtain ⟨above, rest⟩ := List.pairwise_cons.mp ordered
      rw [insertEntry]
      split
      · rename_i same
        exact List.pairwise_cons.mpr ⟨fun entry member => same ▸ above entry member, rest⟩
      · split
        · rename_i below
          refine List.pairwise_cons.mpr ⟨fun entry member => ?_, ordered⟩
          rcases List.mem_cons.mp member with rfl | later
          · exact below
          · exact String.lt_trans below (above entry later)
        · rename_i other notBelow
          have below : first.1 < name := String.not_le.mp fun reached =>
            other (String.le_antisymm reached (String.not_lt.mp notBelow))
          refine List.pairwise_cons.mpr ⟨fun entry member => ?_, ih rest⟩
          rcases mem_insertEntry member with rfl | earlier
          · exact below
          · exact above entry earlier

def insert (texts : NamedTexts) (name text : String) : NamedTexts :=
  ⟨insertEntry name text texts.entries, pairwise_insertEntry texts.ordered name text⟩

/-- Of several texts under one name the last one counts. -/
def ofEntries (entries : List (String × String)) : NamedTexts :=
  entries.foldl (fun texts (name, text) => texts.insert name text) ∅

theorem nodup_names (texts : NamedTexts) : (texts.entries.map Prod.fst).Nodup := by
  refine List.pairwise_map.mpr (texts.ordered.imp fun below same => ?_)
  rw [same] at below
  exact String.lt_irrefl _ below

end NamedTexts

structure Settings where
  /-- How many seconds a scan may take; zero sets no limit. -/
  timeoutSeconds : Nat := 0
  fastMode : Bool := false
  /-- How many scans may run at the same time, if it is not left to the machine. -/
  threads : Option Nat := none
  printTags : Bool := false
  printStrings : Bool := false
  /-- Rules that do not match are printed instead of those that do. -/
  negate : Bool := false
  showProgress : Bool := true
  profile : Bool := false
  externals : NamedTexts := ∅
  deriving DecidableEq, Repr, Inhabited

inductive SettingsFault where
  | noThreads
  | tooManyThreads
  | emptyName
  deriving DecidableEq, Repr

def SettingsFault.message : SettingsFault → String
  | .noThreads => "max_threads must be greater than 0"
  | .tooManyThreads => "max_threads cannot exceed 32"
  | .emptyName => "invalid external name ''"

inductive SettingsError where
  | unreadable (fault : FileError)
  | malformed
  | invalid (fault : SettingsFault)
  deriving DecidableEq, Repr

def SettingsError.message : SettingsError → String
  | .unreadable fault => "Could not read config: " ++ fault.message
  | .malformed => "Invalid config: unexpected JSON"
  | .invalid fault => fault.message

namespace Settings

def threadLimit : Nat := 32

def define (settings : Settings) (name text : String) : Settings :=
  { settings with externals := settings.externals.insert name text }

def fault? (settings : Settings) : Option SettingsFault :=
  if settings.threads = some 0 then some .noThreads
  else if settings.threads.any (threadLimit < ·) then some .tooManyThreads
  else if settings.externals.entries.any fun entry => entry.1.isEmpty then some .emptyName
  else none

def timeout (settings : Settings) : Nanoseconds := settings.timeoutSeconds * Nanoseconds.perSecond

def scanFlags (settings : Settings) : ScanFlags where
  fastMode := settings.fastMode
  profile := settings.profile

/-- Gives external variables of a rule set the values that some texts stand for, one after the
other. The first one that fails ends this; the second part holds what was reached. -/
def applyTexts (rules : RuleSet) : List (String × String) → Except Error Unit × RuleSet
  | [] => (.ok (), rules)
  | (name, text) :: rest =>
    match rules.defineFromText name text with
    | .ok rules => applyTexts rules rest
    | .error error => (.error error, rules)

def applyTo (settings : Settings) (rules : RuleSet) : Except Error Unit × RuleSet :=
  applyTexts rules settings.externals.entries

def entryNames : List String :=
  ["timeout_seconds", "fast_mode", "max_threads", "print_tags", "print_strings", "negate",
    "show_progress", "profile", "externals"]

def largestNumber : Nat := UInt64.size - 1

def ofJson? (json : Json) : Option Settings := descend depthLimit fun levels => do
  match ← json.asRecord? entryNames with
  | [timeout, fast, threads, tags, strings, negate, progress, profile, externals] => do
    let timeoutSeconds ← optional 0 (asNatural? largestNumber) timeout
    let fastMode ← optional false asBool? fast
    let threads ← optional none (fun value => (value.asNatural? largestNumber).map some) threads
    let printTags ← optional false asBool? tags
    let printStrings ← optional false asBool? strings
    let negate ← optional false asBool? negate
    let showProgress ← optional true asBool? progress
    let profile ← optional false asBool? profile
    let texts ← optional [] (asEntries? levels asString?) externals
    some {
      timeoutSeconds, fastMode, threads, printTags, printStrings, negate, showProgress, profile
      externals := .ofEntries texts }
  | _ => none

def ofText (text : String) : Except SettingsError Settings :=
  match (Json.ofText? text).bind ofJson? with
  | none => .error .malformed
  | some settings =>
    match settings.fault? with
    | some fault => .error (.invalid fault)
    | none => .ok settings

/-- Writes settings, with the number of threads of the machine where it is left to it. -/
def toJson (settings : Settings) (machineThreads : Nat) : Json :=
  let entries : List Json :=
    [.natural settings.timeoutSeconds, .bool settings.fastMode,
      .natural (settings.threads.getD machineThreads), .bool settings.printTags,
      .bool settings.printStrings, .bool settings.negate, .bool settings.showProgress,
      .bool settings.profile,
      .object (settings.externals.entries.map fun (name, text) => (some name, .string text))]
  .object ((entryNames.map some).zip entries)

end Settings

end ByteScan
