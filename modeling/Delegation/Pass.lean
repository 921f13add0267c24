import Delegation.Event
import Delegation.Java.ClassName.Order
import Delegation.Output.Basic
import Delegation.Synthesis
import Delegation.Validation

/-!
# Passes

One pass looks at the annotated classes that are new and at those put off before.  Each is judged on
its own, by the symbols of the round alone; the pass carries out the judgements in order and stops
at the first fault.

## Main Definitions

* `judge` — what is to happen to an annotated class.
* `Progress` — what one pass leaves for the next: classes put off and classes done.
* `Pass` — the state of a pass, with what it has reported, written and logged.
* `Pass.run` — one pass.
* `undefinedDiagnostics` — what is reported about the classes that are still put off in the end.
-/

namespace Delegation

open Java

/-- What is to happen to an annotated class. -/
inductive Judgement
  /-- The request is rejected. -/
  | reject (problems : List Problem)
  /-- The class is put off to a later round. -/
  | defer
  /-- The symbols contradict an accepted request. -/
  | fail (contradiction : Contradiction)
  /-- The base class is generated. -/
  | generate (result : Synthesised)
deriving DecidableEq, Repr, Inhabited

/-- Judge an annotated class by the symbols of a round. -/
def judge (table : SymbolTable) (decl : TypeDecl) : Judgement :=
  match validate table decl with
  | .rejected problems => .reject problems
  | .deferred => .defer
  | .accepted plan =>
    match synthesise table plan with
    | .ok result => .generate result
    | .error (.awaits _) => .defer
    | .error (.contradicts contradiction) => .fail contradiction

/-- The warning about a collision in the class generated for `type`. -/
def Collision.diagnostic (type : ClassName) (collision : Collision) : Diagnostic :=
  .warning .ambiguousMethod
    (collision.signature.text ++ " is declared by " ++ collision.chosen.qualified ++ " and " ++
      ", ".intercalate (collision.shadowed.map ClassName.qualified) ++ "; forwarding to " ++
      collision.chosen.qualified)
    (.type type)

theorem Collision.diagnostic_eq (type : ClassName) (collision : Collision) :
    collision.diagnostic type = ⟨.warning, .ambiguousMethod,
      collision.signature.text ++ " is declared by " ++ collision.chosen.qualified ++ " and " ++
        ", ".intercalate (collision.shadowed.map ClassName.qualified) ++ "; forwarding to " ++
        collision.chosen.qualified, .type type⟩ := rfl

/-- The error about a fault on the way to the class generated for `type`. -/
def Fault.diagnostic (type : ClassName) (fault : Fault) : Diagnostic :=
  .error .internalException ("@AutoDelegate processing failed: " ++ fault.trace) (.type type)

theorem Fault.diagnostic_eq (type : ClassName) (fault : Fault) : fault.diagnostic type =
    ⟨.error, .internalException, "@AutoDelegate processing failed: " ++ fault.trace,
      .type type⟩ := rfl

/-- What one pass leaves for the next. -/
structure Progress where
  /-- Annotated classes to try again. -/
  deferred : ClassNames
  /-- Annotated classes whose base class has been written. -/
  emitted : ClassNames

/-- Nothing has happened. -/
def Progress.empty : Progress := ⟨∅, ∅⟩

/-- What happened to the classes of a pass. -/
structure PassReport where
  /-- The generated classes, in order. -/
  generated : List ClassName
  /-- The annotated classes that were put off. -/
  deferred : List ClassName
  /-- The annotated classes that were rejected. -/
  invalid : List ClassName
deriving DecidableEq, Repr, Inhabited

namespace PassReport

/-- No class has been looked at. -/
def empty : PassReport := ⟨[], [], []⟩

/-- Whether anything was generated. -/
def madeProgress (report : PassReport) : Bool := !report.generated.isEmpty

end PassReport

/-- The state of a pass that writes to a store of type `σ`. -/
structure Pass (σ : Type) where
  progress : Progress
  store : σ
  report : PassReport
  /-- What has been reported in the pass. -/
  diagnostics : List Diagnostic
  /-- The classes written in the pass, in order. -/
  written : List BaseClass
  /-- What has been logged in the pass. -/
  log : List Event

namespace Pass

variable {σ : Type}

/-- Report diagnostics. -/
def tell (pass : Pass σ) (diagnostics : List Diagnostic) : Pass σ :=
  { pass with diagnostics := pass.diagnostics ++ diagnostics }

/-- Log events. -/
def note (pass : Pass σ) (events : List Event) : Pass σ :=
  { pass with log := pass.log ++ events }

/-- Put a class off. -/
def defer (pass : Pass σ) (type : ClassName) : Pass σ :=
  { pass with
    progress.deferred := pass.progress.deferred.insert type
    report.deferred := pass.report.deferred ++ [type] }

/-- Reject a class. -/
def reject (pass : Pass σ) (type : ClassName) (problems : List Problem) : Pass σ :=
  { pass.tell (problems.map (Problem.diagnostic type)) with
    report.invalid := pass.report.invalid ++ [type] }

/-- Stop at a fault. -/
def abort (pass : Pass σ) (type : ClassName) (fault : Fault) : Option Fault × Pass σ :=
  (some fault, (pass.tell [fault.diagnostic type]).note [.failed type fault.trace])

/-- Note that the base class of a class has been written. -/
def record (pass : Pass σ) (type : ClassName) (base : BaseClass) : Pass σ :=
  { pass.note [.generated type base.name] with
    progress.emitted := pass.progress.emitted.insert type
    report.generated := pass.report.generated ++ [base.name]
    written := pass.written ++ [base] }

/-- Write the base class of a class, after the warnings about it. -/
def generate (pass : Pass σ) (options : Options) (output : Output σ) (type : ClassName)
    (result : Synthesised) : Option Fault × Pass σ :=
  let pass := (pass.tell (result.collisions.map (Collision.diagnostic type))).note
    (result.collisions.map fun collision => .shared type collision.signature)
  match output.write pass.store result.base (render result.base options) with
  | (.ok (), store) => (none, { pass with store }.record type result.base)
  | (.error fault, store) => { pass with store }.abort type fault

/-- Carry out the judgement on one class. -/
def process (pass : Pass σ) (options : Options) (output : Output σ) (table : SymbolTable)
    (decl : TypeDecl) : Option Fault × Pass σ :=
  match judge table decl with
  | .reject problems => (none, pass.reject decl.name problems)
  | .defer => (none, pass.defer decl.name)
  | .fail contradiction => pass.abort decl.name (contradiction.fault decl.name)
  | .generate result => pass.generate options output decl.name result

/-- Process classes in order, up to the first fault. -/
def processAll (pass : Pass σ) (options : Options) (output : Output σ) (table : SymbolTable) :
    List TypeDecl → Option Fault × Pass σ
  | [] => (none, pass)
  | decl :: rest =>
    match pass.process options output table decl with
    | (none, pass) => pass.processAll options output table rest
    | (some fault, pass) => (some fault, pass)

/-- The classes to process: those put off, in their order, and then the new ones, each once and
without those that are done.  Classes that are not visible are dropped. -/
def candidates (progress : Progress) (annotated : List ClassName) (table : SymbolTable) :
    List TypeDecl :=
  let names := (progress.deferred.toList ++ annotated).filter (!progress.emitted.contains ·)
  names.eraseDups.filterMap table.lookup

/-- The state in which a pass begins. -/
def start (progress : Progress) (store : σ) : Pass σ :=
  ⟨{ progress with deferred := ∅ }, store, .empty, [], [], []⟩

/-- One pass over the classes put off and the newly annotated ones. -/
def run (options : Options) (output : Output σ) (table : SymbolTable) (progress : Progress)
    (annotated : List ClassName) (store : σ) : Option Fault × Pass σ :=
  (start progress store).processAll options output table (candidates progress annotated table)

end Pass

/-- The values of a class's request that name types which do not exist, each text once. -/
def missingValues (table : SymbolTable) (type : ClassName) : List String :=
  let request := ((table.lookup type).map (·.request)).getD .empty
  (request.values.filter (table.resolve · = .missing)).eraseDups

/-- The error about a class that is still put off when no more types can appear. -/
def undefinedDiagnostic (table : SymbolTable) (type : ClassName) : Diagnostic :=
  let message := match missingValues table type with
    | [] => "@AutoDelegate references types that were never generated"
    | values => "@AutoDelegate references undefined types: " ++ ", ".intercalate values
  .error .undefined message (.type type)

/-- The errors about all classes that are still put off when no more types can appear. -/
def undefinedDiagnostics (table : SymbolTable) (progress : Progress) : List Diagnostic :=
  progress.deferred.toList.map (undefinedDiagnostic table)

end Delegation
