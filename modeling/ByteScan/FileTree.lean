import ByteScan.Error

/-!
# Files and directories

A tree of files as seen from the working directory. A place in it is a list of names; a path is a
text that leads to a place, or fails to, in the usual way: names are separated by slashes, a dot
stays where it is, two dots go up, and whatever is followed by a slash has to be a directory.
-/

namespace ByteScan

inductive FileEntry where
  | file (content : ByteArray)
  | directory

/-- Files and directories under their places. A directory need not be listed if it holds
something. -/
structure FileTree where
  entries : List (List String × FileEntry)

instance : Inhabited FileTree := ⟨⟨[]⟩⟩

structure FilePath where
  isAbsolute : Bool
  names : List String
  endsInSlash : Bool
  deriving DecidableEq, Repr

/-- The parts of a path; an empty text is no path. -/
def FilePath.ofText? (text : String) : Option FilePath :=
  if text.isEmpty then none
  else some {
    isAbsolute := text.toList.head? = some '/'
    names := (text.splitOn "/").filter fun name => !name.isEmpty
    endsInSlash := text.toList.getLast? = some '/' }

def FilePath.childText (directory name : String) : String :=
  if directory.toList.getLast? = some '/' then directory ++ name else directory ++ "/" ++ name

namespace FileTree

def top : List String := ["/"]

/-- The place above a place. Above the working directory lie places that begin with two dots. -/
def above (place : List String) : List String :=
  if place = top then top
  else if place.isEmpty || place.getLast? = some ".." then place ++ [".."]
  else place.dropLast

def isDirectoryAt (tree : FileTree) (place : List String) : Bool :=
  place.isEmpty || tree.entries.any fun (other, entry) =>
    if other = place then entry matches .directory else place.isPrefixOf other

def at? (tree : FileTree) (place : List String) : Option FileEntry :=
  if tree.isDirectoryAt place then some .directory else tree.entries.lookup place

def walk (tree : FileTree) (place : List String) :
    List String → Except FileError (List String × FileEntry)
  | [] => .ok (place, .directory)
  | name :: names =>
    let next :=
      if name = "." then place else if name = ".." then above place else place ++ [name]
    match tree.at? next with
    | some .directory => walk tree next names
    | some (.file content) =>
      if names.isEmpty then .ok (next, .file content) else .error .notDirectory
    | none => .error .missing

def startOf (path : FilePath) : List String := if path.isAbsolute then top else []

def find (tree : FileTree) (text : String) : Except FileError (List String × FileEntry) :=
  match FilePath.ofText? text with
  | none => .error .missing
  | some path =>
    match tree.walk (startOf path) path.names with
    | .ok (place, .file content) =>
      if path.endsInSlash then .error .notDirectory else .ok (place, .file content)
    | found => found

def isDirectory (tree : FileTree) (text : String) : Bool :=
  match tree.find text with
  | .ok (_, .directory) => true
  | _ => false

def put (tree : FileTree) (place : List String) (content : ByteArray) : FileTree :=
  ⟨(place, .file content) :: tree.entries.filter fun (other, _) => other ≠ place⟩

/-- Writes a file, over the one that is there. The directory has to exist. -/
def write (tree : FileTree) (text : String) (content : ByteArray) : Except FileError FileTree :=
  match FilePath.ofText? text with
  | none => .error .missing
  | some path =>
    match path.names.getLast? with
    | none => .error .isDirectory
    | some name =>
      match tree.walk (startOf path) path.names.dropLast with
      | .error fault => .error fault
      | .ok (_, .file _) => .error .notDirectory
      | .ok (place, .directory) =>
        if path.endsInSlash || name = "." || name = ".." then .error .isDirectory
        else if tree.isDirectoryAt (place ++ [name]) then .error .isDirectory
        else .ok (tree.put (place ++ [name]) content)

def childName? (directory : List String) : List String × FileEntry → Option String
  | (place, .file _) =>
    match place.getLast? with
    | some name => if place.dropLast = directory then some name else none
    | none => none
  | (_, .directory) => none

def filesIn (tree : FileTree) (text : String) : List String :=
  match tree.find text with
  | .ok (place, .directory) =>
    (tree.entries.filterMap (childName? place)).mergeSort fun first second => first ≤ second
  | _ => []

/-- Files under their paths, which are taken to be free of dots. -/
def ofFiles (files : List (String × ByteArray)) : FileTree :=
  files.foldl
    (fun tree (text, content) =>
      match FilePath.ofText? text with
      | some path => tree.put (startOf path ++ path.names) content
      | none => tree)
    ⟨[]⟩

end FileTree

end ByteScan
