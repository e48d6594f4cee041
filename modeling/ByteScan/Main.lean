import ByteScan.CommandLine.Program

/-!
# The program

The outer layer of the command line: it loads the files that a command line speaks of, lets the
library do what is asked for, prints what there is to print, and writes the file that was saved.
Memory of processes cannot be read from here, and time is counted in steps of a nominal clock.
-/

namespace ByteScan.Main

open CommandLine

def pathOfPlace (place : List String) : String :=
  match place with
  | [] => "."
  | "/" :: names => "/" ++ "/".intercalate names
  | names => "/".intercalate names

/-- The files of a directory, not those of directories in it. -/
def loadFiles (tree : FileTree) (place : List String) : IO FileTree := do
  let here ← IO.currentDir
  let directory := here / pathOfPlace place
  let mut tree := tree
  for entry in ← directory.readDir do
    let path := directory / entry.fileName
    if !(← path.isDir) then
      tree := tree.put (place ++ [entry.fileName]) (← IO.FS.readBinFile path)
  return tree

/-- What stands on the way along some names, and the files of a directory at its end. -/
def loadAlong (tree : FileTree) (place : List String) : List String → IO FileTree
  | [] => loadFiles tree place
  | name :: names => do
    let next :=
      if name = "." then place
      else if name = ".." then FileTree.above place
      else place ++ [name]
    let path := (← IO.currentDir) / pathOfPlace next
    if ← path.isDir then loadAlong ⟨(next, .directory) :: tree.entries⟩ next names
    else if ← path.pathExists then return tree.put next (← IO.FS.readBinFile path)
    else return tree

def load (tree : FileTree) (text : String) : IO FileTree :=
  match FilePath.ofText? text with
  | some path => loadAlong tree (FileTree.startOf path) path.names
  | none => return tree

def pathsOf (invocation : Invocation) : List String :=
  let named := match invocation.request with
    | .compile request => [request.rules, request.output]
    | .scan request => request.compiled :: if request.processes then [] else request.targets
    | .describe compiled => [compiled]
  invocation.config.toList ++ named

def writeSaved (tree : FileTree) (invocation : Invocation) : IO Unit :=
  match invocation.request with
  | .compile request =>
    match tree.find request.output with
    | .ok (_, .file content) => do
      let here ← IO.currentDir
      IO.FS.writeBinFile (here / request.output) content
    | _ => return
  | _ => return

def follow (words : List String) : IO UInt32 := do
  let invocation? := (Invocation.ofWords words).toOption
  let tree ← ((invocation?.map pathsOf).getD []).foldlM load ⟨[]⟩
  let (outcome, tree) := CommandLine.run ⟨tree, fun _ => none⟩ (.steady 1000) words
  IO.print outcome.output
  IO.eprint outcome.errors
  if ← (← IO.getStderr).isTty then IO.eprint outcome.progress
  if outcome.code = 0 then
    if let some invocation := invocation? then writeSaved tree invocation
  return UInt32.ofNat outcome.code

end ByteScan.Main

def main (words : List String) : IO UInt32 := ByteScan.Main.follow words
