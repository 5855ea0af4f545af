import ParseKit.CommandLine.Input

namespace ParseKit.CommandLine

-- The files of a folder, by their paths in it, and the paths of folders in it that are empty.
structure Folder where
  files : List (String × ByteArray)
  emptyFolders : List String

namespace Folder

-- What a path leads to.
inductive Target where
  | missing
  | notFolder
  | tooLong
  -- A folder above the one at hand.
  | above
  | folder (path : List String)
  | file (content : ByteArray)

def isFolder (f : Folder) (path : String) : Bool :=
  f.emptyFolders.contains path || f.files.any (·.1.startsWith (path ++ "/"))

-- The longest name of a file or a folder, and the longest path, in bytes.
def longestName : Nat := 255
def longestPath : Nat := 4095

-- Goes on from a target to a name.
def enter (f : Folder) (target : Target) (name : String) : Target :=
  match target with
  | .folder here =>
    let path := here ++ [name]
    let whole := "/".intercalate path
    if name = "." then target
    else if name = "" || (name = ".." && here.isEmpty) then .above
    else if name = ".." then .folder here.dropLast
    else if longestName < name.utf8ByteSize then .tooLong
    else
      match f.files.lookup whole with
      | some content => .file content
      | none => if f.isFolder whole then .folder path else .missing
  | .above =>
    if name = "" || name = "." || name = ".." then .above
    else if longestName < name.utf8ByteSize then .tooLong
    else .missing
  | .file _ => .notFolder
  | other => other

def find (f : Folder) (path : String) : Target :=
  if longestPath < path.utf8ByteSize then .tooLong
  else (path.splitOn "/").foldl f.enter (.folder [])

-- The content of the file that a path leads to.
def content (f : Folder) (path : String) : Except SystemError ByteArray :=
  match f.find path with
  | .missing => .error .missing
  | .notFolder => .error .notFolder
  | .tooLong => .error .tooLong
  | .above | .folder _ => .error .isFolder
  | .file content => .ok content

theorem content_of_long {f : Folder} {path : String} (h : longestPath < path.utf8ByteSize) :
    f.content path = .error .tooLong := by
  simp [content, find, h]

end Folder

end ParseKit.CommandLine
