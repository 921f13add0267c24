import Delegation.CommandLine.Arguments
import Delegation.CommandLine.Execute

/-!
# The command from its arguments

The command as the program runs it: its arguments are read here, and so are the TOML files and the
texts in JSON, by the readers and the writer of this library.

## Main Definitions

* `Libraries.plain` — TOML and JSON as this library has them, and no colours.
* `run` — the command.
-/

namespace Delegation.CommandLine

/-- TOML and JSON as this library has them, and no colours. -/
def Libraries.plain : Libraries where
  readToml? := Toml.parse?
  writeJson json := .ok json.pretty
  paint _ text := text

/-- The arguments make no sense. -/
def Report.misuse : Report :=
  { exitCode := 2, stdout := "", stderr := "error: invalid arguments, see autodelegate --help\n" }

/-- The name and the version of the command. -/
def versionText : String := "autodelegate 0.1.0\n"

/-- How the command is used. -/
def helpText : String :=
  "Usage: autodelegate [OPTIONS] generate [--snapshot <FILE>] [--out <DIR>] [--check] [--dry-run]\n" ++
    "         [--model] [--release <N>] [--no-generated-annotation]\n\n" ++
    "Options:\n" ++
    "  -v, --verbose  Enable verbose output\n" ++
    "  -h, --help     Print help\n" ++
    "  -V, --version  Print version\n"

/-- Run the command on a file tree. -/
def run (arguments : List String) (tree : FileTree) : Report × FileTree :=
  match Invocation.ofArguments arguments with
  | .misuse => (.misuse, tree)
  | .help => (.success helpText "", tree)
  | .version => (.success versionText "", tree)
  | .generate settings => execute .plain settings tree

end Delegation.CommandLine
