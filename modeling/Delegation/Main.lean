import Delegation.CommandLine.Generate

/-!
# The program

The command works on a file tree; the program fills the tree from the disk and brings the changes
back.  Which files matter is found out by running the command twice: first with nothing but the
snapshot, to learn which files it would write, and then with what is on the disk in their places.

## Main Definitions

* `loadSnapshot`, `loadOutputs` — fill a tree from the disk.
* `store` — bring changes back.
* `main` — the program.
-/

namespace Delegation.CommandLine

/-- What is at a path on the disk.  `unreadable` stands for what cannot be read as text. -/
def entryAt (path : String) (unreadable : Option FileEntry) : IO (Option FileEntry) := do
  try return some (.file (← IO.FS.readFile path))
  catch
    | .noFileOrDirectory .. => return none
    | .inappropriateType .. => return some .directory
    | _ => return unreadable

/-- The tree with the snapshot file that the arguments name.  A file that is no text is as unreadable
as a directory. -/
def loadSnapshot (arguments : List String) : IO FileTree :=
  match Invocation.ofArguments arguments with
  | .generate settings => do
    match ← entryAt settings.snapshot (some .directory) with
    | some entry => return FileTree.empty.plant settings.snapshot entry
    | none => return .empty
  | _ => return .empty

/-- Add to a tree what is on the disk where the command would put something. -/
def loadOutputs (arguments : List String) (tree : FileTree) : IO FileTree :=
  (tree.newEntries (run arguments tree).2).foldlM (fun tree (place, _) => do
    match ← entryAt (FileTree.pathOf place) none with
    | some entry => return tree.put place entry
    | none => return tree) tree

/-- Bring an entry to the disk. -/
def store (place : Place) : FileEntry → IO Unit
  | .directory => IO.FS.createDirAll (FileTree.pathOf place)
  | .file content => IO.FS.writeFile (FileTree.pathOf place) content

end Delegation.CommandLine

open Delegation CommandLine in
/-- Run the command with the files on the disk. -/
def main (arguments : List String) : IO UInt32 := do
  let before ← loadOutputs arguments (← loadSnapshot arguments)
  let (report, after) := run arguments before
  (before.newEntries after).forM fun (place, entry) => store place entry
  (← IO.getStderr).putStr (report.standardError fun _ event => event.line)
  (← IO.getStdout).putStr report.stdout
  return report.exitCode.toUInt32
