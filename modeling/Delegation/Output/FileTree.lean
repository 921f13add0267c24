import Delegation.Source.Path
import Std.Data.TreeMap

/-!
# File trees

Files and directories as a value.  Paths are followed segment by segment, and what comes before a
segment must be a directory; relative paths start at the working directory.

## Main Definitions

* `FileTree` — the entries of a tree by their places.
* `FileTree.locate` — the place that a path leads to.
* `FileTree.find?`, `FileTree.read?` — what is there.
* `FileTree.createDirectories`, `FileTree.writeFile` — changes, which can fail.
* `FileTree.plant`, `FileTree.newEntries` — what a tree starts with, and what has come to it.
-/

namespace Delegation

/-- Why an operation on a file tree fails. -/
inductive FileError
  | notFound
  | alreadyExists
  | notDirectory
  | isDirectory
  | nameTooLong
  | invalidName
deriving DecidableEq, Repr, Inhabited

/-- The text of a file error. -/
def FileError.message : FileError → String
  | notFound => "No such file or directory (os error 2)"
  | alreadyExists => "File exists (os error 17)"
  | notDirectory => "Not a directory (os error 20)"
  | isDirectory => "Is a directory (os error 21)"
  | nameTooLong => "File name too long (os error 36)"
  | invalidName => "file name contained an unexpected NUL byte"

/-- A file with its content, or a directory. -/
inductive FileEntry
  | file (content : String)
  | directory
deriving DecidableEq, Repr, Inhabited

/-- A place in a tree: the segments that lead there from the working directory.  The place above
the working directory is `[".."]`, and absolute places start with `"/"`. -/
abbrev Place := List String

/-- The files and directories at places other than the starting points of paths. -/
structure FileTree where
  entries : Std.TreeMap Place FileEntry

namespace FileTree

/-- A tree without any files. -/
def empty : FileTree := ⟨∅⟩

/-- The places where paths start, which are always directories. -/
def isStart (place : Place) : Bool := place == ["/"] || place.all (· == "..")

/-- The entry at a place. -/
def entry? (tree : FileTree) (place : Place) : Option FileEntry :=
  if isStart place then some .directory else tree.entries[place]?

/-- The place above another one. -/
def above (place : Place) : Place :=
  if place == ["/"] then place
  else if place.all (· == "..") then place ++ [".."]
  else place.dropLast

/-- The number of bytes a segment may have. -/
def maxSegmentSize : Nat := 255

/-- The number of bytes a path may have. -/
def maxPathSize : Nat := 4095

/-- Go on from a place, which must be a directory, by one segment. -/
def step (tree : FileTree) (place : Place) (segment : String) : Except FileError Place :=
  match tree.entry? place with
  | none => .error .notFound
  | some (.file _) => .error .notDirectory
  | some .directory =>
    if segment.isEmpty || segment == "." then .ok place
    else if segment == ".." then .ok (above place)
    else if segment.utf8ByteSize > maxSegmentSize then .error .nameTooLong
    else .ok (place ++ [segment])

/-- The segments of a path and the place where it starts. -/
def startOf (path : String) : Place × List String :=
  ((if Source.Path.isAbsolute path then ["/"] else []),
    (path.toList.splitOn '/').map String.ofList)

/-- What no path may be, whatever the tree is like. -/
def checkPath (path : String) : Except FileError Unit :=
  if path.toList.contains '\x00' then .error .invalidName
  else if path.isEmpty then .error .notFound
  else if path.utf8ByteSize > maxPathSize then .error .nameTooLong
  else .ok ()

/-- Follow a path.  All but the last segment must lead to directories. -/
def follow (tree : FileTree) (path : String) : Except FileError Place :=
  let (start, segments) := startOf path
  segments.foldlM tree.step start

/-- The place that a path leads to.  Where separators end the path, that is a directory. -/
def locate (tree : FileTree) (path : String) : Except FileError Place := do
  checkPath path
  tree.follow path

/-- What a path leads to. -/
def find? (tree : FileTree) (path : String) : Option FileEntry :=
  match tree.locate path with
  | .ok place => tree.entry? place
  | .error _ => none

/-- The content of the file that a path leads to. -/
def read? (tree : FileTree) (path : String) : Option String :=
  match tree.find? path with
  | some (.file content) => some content
  | _ => none

/-- Put an entry at a place. -/
def put (tree : FileTree) (place : Place) (entry : FileEntry) : FileTree :=
  ⟨tree.entries.insert place entry⟩

/-- Whether a path leads to a directory. -/
def isDirectory (tree : FileTree) (path : String) : Bool := tree.find? path == some .directory

/-- Make the directory that a path leads to.  It must be new, and the one that holds it must exist.
The path may end in separators, as that of any directory. -/
def createDirectory (tree : FileTree) (path : String) : Except FileError FileTree := do
  checkPath path
  let place ← tree.follow (Source.Path.dropSeparators path)
  match tree.entry? place with
  | some _ => throw .alreadyExists
  | none => return tree.put place .directory

/-- The outcome of an attempt to make a directory: one that is there already will do. -/
def orExisting (tree : FileTree) (path : String) (attempt : Except FileError FileTree) :
    Except FileError Unit × FileTree :=
  match attempt with
  | .ok tree => (.ok (), tree)
  | .error error => (if tree.isDirectory path then .ok () else .error error, tree)

/-- Make the first directory of a list in which each is followed by the one that holds it.  The later
ones are made before it only where they are missing, and those made before a failure stay. -/
def createFirst (tree : FileTree) : List String → Except FileError Unit × FileTree
  | [] => (.ok (), tree)
  | path :: above =>
    match tree.createDirectory path with
    | .error .notFound =>
      match tree.createFirst above with
      | (.ok (), tree) => tree.orExisting path (tree.createDirectory path)
      | failure => failure
    | result => tree.orExisting path result

/-- Make the directory that a path leads to, and all directories on the way. -/
def createDirectories (tree : FileTree) (path : String) : Except FileError Unit × FileTree :=
  tree.createFirst (Source.Path.ancestors path)

/-- Write a file.  Its directory must exist. -/
def writeFile (tree : FileTree) (path content : String) : Except FileError FileTree := do
  let place ← tree.locate path
  match tree.entry? place with
  | some .directory => throw .isDirectory
  | _ => return tree.put place (.file content)

/-- Put an entry where a path leads to, with the directories on the way.  Where there is no way, the
tree stays as it is. -/
def plant (tree : FileTree) (path : String) : FileEntry → FileTree
  | .directory => (tree.createDirectories path).2
  | .file content =>
    let tree := (tree.createDirectories (Source.Path.parent path)).2
    (tree.writeFile path content).toOption.getD tree

/-- The path to a place. -/
def pathOf : Place → String
  | "/" :: segments => "/" ++ "/".intercalate segments
  | segments => "/".intercalate segments

/-- The entries that a tree has and an earlier one has not, directories before their content. -/
def newEntries (before after : FileTree) : List (Place × FileEntry) :=
  after.entries.toList.filter fun (place, entry) => before.entries[place]? != some entry

/-- The files of the tree with their places, in order. -/
def files (tree : FileTree) : List (Place × String) :=
  tree.entries.toList.filterMap fun (place, entry) =>
    match entry with
    | .file content => some (place, content)
    | .directory => none

end FileTree

end Delegation
