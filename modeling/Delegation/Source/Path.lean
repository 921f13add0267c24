import Delegation.Java.ClassName

/-!
# Paths

Paths are texts in which `/` separates the segments.  A source lies in the directory of its package,
in a file named after its outermost class.

## Main Definitions

* `Path.join` — go on from a path; an absolute path replaces what came before it.
* `Path.parent` — the path of the directory that holds a file.
* `Path.ancestors` — a path and all directories above it.
* `sourcePath` — the path of a class's source.
-/

namespace Delegation.Source

open Java

namespace Path

/-- Whether a path starts at the root of the file system. -/
def isAbsolute (path : String) : Bool := path.toList.head? == some '/'

/-- Whether a path needs a separator before it can go on. -/
def needsSeparator (path : String) : Bool := path.toList.getLast?.any (· != '/')

/-- Go on from `base` by `rest`. -/
def join (base rest : String) : String :=
  if isAbsolute rest then rest
  else if needsSeparator base then base ++ "/" ++ rest
  else base ++ rest

/-- Go on from `base` by several segments. -/
def joinAll (base : String) (segments : List String) : String := segments.foldl join base

/-- Drop the separators at the end of a path, but for the one of the root. -/
def dropSeparators (path : String) : String :=
  match path.toList.reverse.dropWhile (· == '/') with
  | [] => if isAbsolute path then "/" else ""
  | reversed => String.ofList reversed.reverse

/-- Drop separators, and segments that mean the directory they stand in, from the end of a path
whose characters are given in reverse. -/
def trimReversed : List Char → List Char
  | ['/'] => ['/']
  | '/' :: rest => trimReversed rest
  | '.' :: '/' :: rest => trimReversed ('/' :: rest)
  | path => path

/-- The directory that holds the last segment of a path; the empty path stands for the place where
relative paths start. -/
def parent (path : String) : String :=
  let reversed := (trimReversed path.toList.reverse).dropWhile (· != '/')
  String.ofList (trimReversed reversed).reverse

/-- A path and the directories above it, at most as many as the bound allows. -/
def ancestorsWithin : Nat → String → List String
  | 0, _ => []
  | bound + 1, path =>
    if path.isEmpty then []
    else if parent path = path then [path]
    else path :: ancestorsWithin bound (parent path)

/-- A path, the directory that holds its last segment, the one that holds that directory, and so on.
The place where relative paths start is not among them. -/
def ancestors (path : String) : List String := ancestorsWithin path.length path

end Path

/-- The path of the source of a class below a source root. -/
def sourcePath (name : ClassName) : String :=
  let directories := ((name.package.toList.splitOn '.').filter (!·.isEmpty)).map String.ofList
  Path.join (Path.joinAll "" directories) (name.outermost ++ ".java")

end Delegation.Source
