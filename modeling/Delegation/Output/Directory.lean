import Delegation.Event
import Delegation.Java.ClassName.Order
import Delegation.Output.Basic
import Delegation.Output.FileTree

/-!
# Sources in a directory

A store that writes every source to its place below a root directory.  A file that has the right
content already is not touched, and a class is written only once.

## Main Definitions

* `WrittenFile` — where a source was written, and whether the file changed.
* `DirectoryStore` — a file tree and the sources written so far.
* `DirectoryStore.output` — writing below a root.
* `DirectoryStore.withWrites` — what is logged when classes are written to files.
-/

namespace Delegation

open Java Source

/-- A source that was written. -/
structure WrittenFile where
  path : String
  /-- Whether the content of the file was another one before. -/
  changed : Bool
deriving DecidableEq, Repr, Inhabited

/-- A file tree, and what has been written to it. -/
structure DirectoryStore where
  tree : FileTree
  written : ClassMap WrittenFile

namespace DirectoryStore

/-- Nothing has been written to the tree. -/
def ofTree (tree : FileTree) : DirectoryStore := ⟨tree, ∅⟩

/-- Write a text to a file unless it is there already.  The answer tells whether the file has
changed. -/
def update (tree : FileTree) (path text : String) : Except Fault Bool × FileTree :=
  if tree.read? path = some text then (.ok false, tree)
  else
    match tree.writeFile path text with
    | .ok tree => (.ok true, tree)
    | .error error => (.error (.unwritable path error.message), tree)

/-- Write a text to a file, making its directory first. -/
def place (tree : FileTree) (path text : String) : Except Fault Bool × FileTree :=
  match tree.createDirectories (Path.parent path) with
  | (.error error, tree) => (.error (.unwritable (Path.parent path) error.message), tree)
  | (.ok (), tree) => update tree path text

/-- Write a class below `root`, unless it was written before. -/
def write (root : String) (store : DirectoryStore) (file : SourceFile) :
    Except Fault Unit × DirectoryStore :=
  if store.written.contains file.name then
    (.error (.duplicateOutput file.name.qualified), store)
  else
    let path := Path.join root file.path
    match place store.tree path file.source with
    | (.ok changed, tree) => (.ok (), ⟨tree, store.written.insert file.name ⟨path, changed⟩⟩)
    | (.error fault, tree) => (.error fault, { store with tree })

/-- Writing below `root`. -/
def output (root : String) : Output DirectoryStore := ⟨fun store _ file => write root store file⟩

/-- What has been logged when the source of a class was written. -/
def writesOf (store : DirectoryStore) (name : ClassName) : List Event :=
  match store.written[name]? with
  | some file => if file.changed then [.wrote file.path] else []
  | none => []

/-- What has been logged while classes were generated into the store.  A class is generated right
after its source has been written. -/
def withWrites (store : DirectoryStore) (log : List Event) : List Event :=
  log.flatMap fun event =>
    match event with
    | .generated _ base => store.writesOf base ++ [event]
    | _ => [event]

end DirectoryStore

end Delegation
