import Delegation.Pass
import Delegation.Snapshot

/-!
# Compilations

A compilation runs passes round by round: the types of the round become visible, a pass processes
the annotated ones, and the generated classes join the snapshot.  It ends with the first round that
generates nothing when no types are still to come.

## Main Definitions

* `Compilation` — a snapshot and the options to compile it with.
* `Compilation.run` — run all rounds; the result is a `CompilationResult`.

The rounds are bounded by an option, and the recursion is on the rounds that are left.
-/

namespace Delegation

open Java

/-- A snapshot and the options to compile it with. -/
structure Compilation where
  snapshot : Snapshot
  options : Options

/-- What a finished compilation did. -/
structure Summary where
  /-- The generated classes, in order. -/
  generated : List ClassName
  /-- The number of rounds. -/
  rounds : Nat
deriving DecidableEq, Repr, Inhabited

/-- The state of a compilation that writes to a store of type `σ`. -/
structure Run (σ : Type) where
  snapshot : Snapshot
  progress : Progress
  store : σ
  diagnostics : List Diagnostic
  summary : Summary
  log : List Event

/-- What a compilation leaves behind. -/
structure CompilationResult (σ : Type) where
  outcome : Except Fault Summary
  /-- The compilation with the classes that joined its snapshot. -/
  compilation : Compilation
  store : σ
  diagnostics : List Diagnostic
  log : List Event

namespace Snapshot

/-- Add generated classes in order, up to the first that is refused. -/
def registerAll (snapshot : Snapshot) : List BaseClass → Option Fault × Snapshot
  | [] => (none, snapshot)
  | base :: rest =>
    match snapshot.register base with
    | .ok snapshot => snapshot.registerAll rest
    | .error fault => (some fault, snapshot)

end Snapshot

namespace Run

variable {σ : Type}

/-- The state before the first round. -/
def start (snapshot : Snapshot) (store : σ) : Run σ :=
  ⟨snapshot, .empty, store, [], ⟨[], 0⟩, []⟩

/-- One round: a pass over what is new, and then the generated classes join. -/
def round (options : Options) (output : Output σ) (run : Run σ) :
    Except Fault PassReport × Run σ :=
  let number := run.summary.rounds + 1
  let snapshot := run.snapshot.setRound number
  let (fault?, pass) := Pass.run options output snapshot.table run.progress
    (snapshot.annotatedIn number) run.store
  let run := { run with
    snapshot
    progress := pass.progress
    store := pass.store
    diagnostics := run.diagnostics ++ pass.diagnostics
    log := run.log ++ pass.log }
  match fault? with
  | some fault => (.error fault, run)
  | none =>
    match snapshot.registerAll pass.written with
    | (some fault, snapshot) => (.error fault, { run with snapshot })
    | (none, snapshot) =>
      (.ok pass.report, { run with
        snapshot
        summary := ⟨run.summary.generated ++ pass.report.generated, number⟩ })

/-- Whether a round was the last one. -/
def isSettled (run : Run σ) (report : PassReport) : Bool :=
  !report.madeProgress && !run.snapshot.hasLaterRounds

/-- Report the classes that are still put off. -/
def finish (run : Run σ) : Run σ :=
  { run with
    diagnostics := run.diagnostics ++ undefinedDiagnostics run.snapshot.table run.progress
    log := run.log ++ run.progress.deferred.toList.map .leftOver ++
      [.finished run.summary.rounds run.summary.generated.length] }

/-- Run rounds until one is the last, at most as many as are left. -/
def rounds (options : Options) (output : Output σ) : Nat → Run σ → Except Fault Summary × Run σ
  | 0, run => (.error (.roundLimit options.maxRounds), run)
  | left + 1, run =>
    match run.round options output with
    | (.error fault, run) => (.error fault, run)
    | (.ok report, run) =>
      if run.isSettled report then (.ok run.summary, run.finish)
      else rounds options output left run

end Run

namespace Compilation

/-- Compile a snapshot with its own options. -/
def ofSnapshot (snapshot : Snapshot) : Compilation := ⟨snapshot, snapshot.options⟩

/-- Compile with other options. -/
def withOptions (compilation : Compilation) (options : Options) : Compilation :=
  { compilation with options }

/-- Run all rounds, writing to a store. -/
def run {σ : Type} (compilation : Compilation) (output : Output σ) (store : σ) :
    CompilationResult σ :=
  let options := compilation.options
  let (outcome, run) :=
    (Run.start compilation.snapshot store).rounds options output options.maxRounds
  ⟨outcome, { compilation with snapshot := run.snapshot }, run.store, run.diagnostics, run.log⟩

end Compilation

end Delegation
