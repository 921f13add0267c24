import Delegation.CommandLine.Settings
import Delegation.Compilation
import Delegation.Json
import Delegation.Output.Directory
import Delegation.Output.Memory
import Delegation.Snapshot.Toml

/-!
# The command

The command compiles the snapshot in a file.  It prints the result or writes it below the source
root, and it fails when there is an error.  Files are those of a file tree, so that the command is a
function of its settings and the files.  How TOML is read, how JSON is written and how colours look
on a terminal is not decided here.

## Main Definitions

* `Libraries` — how TOML is read, JSON is written and text is coloured.
* `Report` — what the command prints and logs, and its exit code.
* `compile` — compile a snapshot under some settings.
* `execute` — the command.
-/

namespace Delegation.CommandLine

/-- The colours of a text. -/
inductive Colour
  | green
  | cyan
  | red
  | yellow
  | dimmed
deriving DecidableEq, Repr, Inhabited

/-- What the command leaves to others. -/
structure Libraries where
  /-- Read a text as TOML. -/
  readToml? : String → Option Toml.Value
  /-- Write a value as JSON.  Where that fails, there is a reason. -/
  writeJson : Json → Except String String
  /-- Give a text a colour, if it can be seen. -/
  paint : Colour → String → String

/-- What a command leaves behind for its caller. -/
structure Report where
  exitCode : Nat
  stdout : String
  /-- The messages, which come after the log. -/
  stderr : String
  log : List Event := []
deriving DecidableEq, Repr, Inhabited

namespace Report

/-- Success, with some output. -/
def success (stdout stderr : String) : Report := { exitCode := 0, stdout, stderr }

/-- Failure with a message, after other messages. -/
def failure (stderr message : String) : Report :=
  { exitCode := 1, stdout := "", stderr := stderr ++ "Error: " ++ message ++ "\n" }

/-- The same report with a log of events, as far as the settings let them in. -/
def logging (report : Report) (settings : Settings) (events : List Event) : Report :=
  { report with log := events.filter (Event.isShown settings.verbose) }

/-- What is printed to the standard error, given how a logger puts an event on a line.  The line may
differ from one event to the next, as it does when it tells the time. -/
def standardError (report : Report) (line : Nat → Event → String) : String :=
  String.join (report.log.mapIdx line) ++ report.stderr

end Report

/-! ### Messages -/

/-- The message for a missing snapshot. -/
def notFoundMessage (path : String) : String :=
  "Snapshot not found: " ++ path ++
    "\n  Hint: pass --snapshot <file> pointing at a compilation snapshot (TOML)"

/-- The message for a compilation with errors. -/
def failedMessage (errors : Nat) : String :=
  "Generation failed: " ++ toString errors ++
    " error(s) reported\n  Hint: fix the diagnostics above and retry"

section Texts

variable (libraries : Libraries)

/-- The line for a diagnostic. -/
def diagnosticLine (diagnostic : Diagnostic) : String :=
  let mark := match diagnostic.severity with
    | .error => libraries.paint .red "✗"
    | .warning => libraries.paint .yellow "!"
  mark ++ " [" ++ diagnostic.location.text ++ "] [" ++ diagnostic.code.tag ++ "] " ++
    diagnostic.message ++ "\n"

/-- The lines that show diagnostics, and the snapshot they belong to. -/
def diagnosticText (path : String) (diagnostics : List Diagnostic) : String :=
  String.join (diagnostics.map (diagnosticLine libraries)) ++
    if diagnostics.isEmpty then "" else "  in: " ++ path ++ "\n"

/-- The line for a successful check. -/
def checkText (path : String) (summary : Summary) : String :=
  libraries.paint .green "✓" ++ " " ++ path ++ " validated successfully, " ++
    toString summary.generated.length ++ " class(es) would be generated\n"

/-- A source, and where it would be written. -/
def sourceText (out : String) (file : SourceFile) : String :=
  libraries.paint .dimmed "──" ++ "  " ++ Source.Path.join out file.path ++ "\n" ++ file.source

/-- The line for a source that was written. -/
def writtenText (file : WrittenFile) : String :=
  if file.changed then "  " ++ libraries.paint .cyan "→" ++ " " ++ file.path ++ " written\n"
  else "  " ++ libraries.paint .dimmed "·" ++ " " ++ file.path ++ " unchanged\n"

/-- The line after all sources. -/
def summaryText (summary : Summary) : String :=
  libraries.paint .green "✓" ++ " " ++ toString summary.generated.length ++
    " class(es) generated in " ++ toString summary.rounds ++ " round(s)\n"

end Texts

/-! ### The command -/

/-- The options of a snapshot as the settings change them. -/
def Settings.apply (settings : Settings) (options : Options) : Options :=
  { options with
    release := settings.release?.getD options.release
    markGenerated := options.markGenerated && !settings.noMarker }

/-- Compile a snapshot under some settings. -/
def compile {σ : Type} (settings : Settings) (snapshot : Snapshot) (output : Output σ) (store : σ) :
    CompilationResult σ :=
  ((Compilation.ofSnapshot snapshot).withOptions (settings.apply snapshot.options)).run output store

/-- Report a compilation: its diagnostics, and what it has to say if there are no errors.  That may
fail as well, for a reason. -/
def reportOf {σ : Type} (libraries : Libraries) (settings : Settings) (result : CompilationResult σ)
    (text : Summary → Except String String) : Report :=
  let stderr := diagnosticText libraries settings.snapshot result.diagnostics
  match result.outcome with
  | .error fault => .failure stderr fault.trace
  | .ok summary =>
    let errors := Diagnostic.errorCount result.diagnostics
    if errors = 0 then
      match text summary with
      | .ok stdout => .success stdout stderr
      | .error reason => .failure stderr reason
    else .failure stderr (failedMessage errors)

/-- What is printed about sources in memory. -/
def memoryText (libraries : Libraries) (settings : Settings) (store : MemoryStore)
    (summary : Summary) : Except String String :=
  match settings.mode with
  | .check => .ok (checkText libraries settings.snapshot summary)
  | .model =>
    match libraries.writeJson (.array (store.classes.values.map BaseClass.toJson)) with
    | .ok text => .ok (text ++ "\n")
    | .error reason => .error ("JSON error: " ++ reason)
  | .print | .write =>
    .ok (String.join (store.files.values.map (sourceText libraries settings.out)))

/-- What is printed about sources in files. -/
def directoryText (libraries : Libraries) (store : DirectoryStore) (summary : Summary) : String :=
  String.join (store.written.values.map (writtenText libraries)) ++ summaryText libraries summary

/-- Compile a snapshot and print or write the result. -/
def generate (libraries : Libraries) (settings : Settings) (snapshot : Snapshot)
    (tree : FileTree) : Report × FileTree :=
  match settings.mode with
  | .write =>
    let result := compile settings snapshot (DirectoryStore.output settings.out) (.ofTree tree)
    let text := fun summary => .ok (directoryText libraries result.store summary)
    ((reportOf libraries settings result text).logging settings
      (result.store.withWrites result.log), result.store.tree)
  | _ =>
    let result := compile settings snapshot MemoryStore.output .empty
    let text := memoryText libraries settings result.store
    ((reportOf libraries settings result text).logging settings result.log, tree)

/-- Read the snapshot of a file. -/
def readSnapshot (libraries : Libraries) (path : String) (tree : FileTree) :
    Except String Snapshot :=
  match tree.find? path with
  | none => .error (notFoundMessage path)
  | some .directory => .error ("reading " ++ path)
  | some (.file text) =>
    match Snapshot.ofText libraries.readToml? text with
    | .ok snapshot => .ok snapshot
    | .error _ => .error ("parsing " ++ path)

/-- Execute the command on a file tree. -/
def execute (libraries : Libraries) (settings : Settings) (tree : FileTree) : Report × FileTree :=
  match readSnapshot libraries settings.snapshot tree with
  | .ok snapshot => generate libraries settings snapshot tree
  | .error message => (.failure "" message, tree)

end Delegation.CommandLine
