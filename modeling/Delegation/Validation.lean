import Delegation.Diagnostic
import Delegation.Java.FreshName
import Delegation.Plan
import Delegation.Symbol.Table

/-!
# Validation

Whether the request of an annotated class can be met.  The checks are independent of each other, so
a class gets all its errors at once; but a value that names a type that does not exist yet puts the
class off to a later round, and what follows that value is not looked at.

## Main Definitions

* `Problem` — what can be wrong with an annotated class, and `Problem.diagnostic`, how it is told.
* `Verdict` — accepted with a plan, put off, or rejected.
* `validate` — the verdict on a class.
-/

namespace Delegation

open Java

/-- What can be wrong with an annotated class.  An index is the position of the entry to blame in
the list of delegates. -/
inductive Problem
  /-- The declaration is of another kind than a class. -/
  | wrongType (kind : TypeKind)
  /-- A nested class is private. -/
  | privateClass
  /-- A nested class is not static. -/
  | innerClass
  /-- The superclass is visible and is not the class to be generated. -/
  | foreignSuperclass (found : ClassName)
  /-- A delegate is of another kind than an interface, or no declared type at all. -/
  | notInterface (index : Nat) (value : String)
  /-- A field name is not an identifier. -/
  | invalidName (index : Nat) (name : String)
  /-- An earlier delegate asks for the same field name. -/
  | duplicateName (index : Nat) (name : String)
  /-- An earlier delegate has the same interface. -/
  | duplicateInterface (index : Nat) (interface : ClassName)
  /-- The class to extend is of another kind than a class, or no declared type at all. -/
  | extendNotClass (value : String)
deriving DecidableEq, Repr, Inhabited

namespace Problem

/-- The sort of diagnostic that a problem gives rise to. -/
def code : Problem → Code
  | wrongType _ => .wrongType
  | privateClass => .privateClass
  | innerClass => .innerClass
  | foreignSuperclass _ => .superclassMismatch
  | notInterface .. => .notInterface
  | invalidName .. => .invalidName
  | duplicateName .. => .duplicateName
  | duplicateInterface .. => .duplicateInterface
  | extendNotClass _ => .extendNotClass

/-- Where a problem of the class `type` is located. -/
def location (type : ClassName) : Problem → Location
  | wrongType _ | privateClass | innerClass | foreignSuperclass _ => .type type
  | notInterface index _ | invalidName index _ | duplicateName index _
  | duplicateInterface index _ => .delegate type index
  | extendNotClass _ => .extend type

/-- The words for a problem of the class `type`. -/
def message (type : ClassName) : Problem → String
  | wrongType kind =>
    "@AutoDelegate only applies to classes, not to " ++ kind.label ++ " " ++ type.simpleName
  | privateClass => "@AutoDelegate class must not be private"
  | innerClass => "Nested @AutoDelegate class must be static"
  | foreignSuperclass found =>
    "@AutoDelegate super class must be the to-be-generated class " ++ type.generated.simpleName
      ++ ", found " ++ found.qualified
  | notInterface _ value =>
    "@AutoDelegate class can only delegate to interfaces, " ++ value ++ " is not an interface"
  | invalidName _ name =>
    "@AutoDelegate field name `" ++ name ++ "` is not a valid Java identifier"
  | duplicateName _ name =>
    "@AutoDelegate field name `" ++ name ++ "` is already used by another delegate"
  | duplicateInterface _ interface =>
    "@AutoDelegate already delegates to " ++ interface.qualified
  | extendNotClass value =>
    "@AutoDelegate super class must be a class, " ++ value ++ " is not a class"

/-- The diagnostic for a problem of the class `type`. -/
def diagnostic (type : ClassName) (problem : Problem) : Diagnostic :=
  .error problem.code (problem.message type) (problem.location type)

/-- What is told about each problem. -/
theorem diagnostic_eq (type : ClassName) (problem : Problem) : problem.diagnostic type =
    match problem with
    | wrongType kind => ⟨.error, .wrongType, "@AutoDelegate only applies to classes, not to " ++
        kind.label ++ " " ++ type.simpleName, .type type⟩
    | privateClass =>
      ⟨.error, .privateClass, "@AutoDelegate class must not be private", .type type⟩
    | innerClass => ⟨.error, .innerClass, "Nested @AutoDelegate class must be static", .type type⟩
    | foreignSuperclass found => ⟨.error, .superclassMismatch,
        "@AutoDelegate super class must be the to-be-generated class " ++
          type.generated.simpleName ++ ", found " ++ found.qualified, .type type⟩
    | notInterface index value => ⟨.error, .notInterface,
        "@AutoDelegate class can only delegate to interfaces, " ++ value ++ " is not an interface",
        .delegate type index⟩
    | invalidName index name => ⟨.error, .invalidName,
        "@AutoDelegate field name `" ++ name ++ "` is not a valid Java identifier",
        .delegate type index⟩
    | duplicateName index name => ⟨.error, .duplicateName,
        "@AutoDelegate field name `" ++ name ++ "` is already used by another delegate",
        .delegate type index⟩
    | duplicateInterface index interface => ⟨.error, .duplicateInterface,
        "@AutoDelegate already delegates to " ++ interface.qualified, .delegate type index⟩
    | extendNotClass value => ⟨.error, .extendNotClass,
        "@AutoDelegate super class must be a class, " ++ value ++ " is not a class",
        .extend type⟩ := by
  cases problem <;> rfl

end Problem

/-- The verdict on an annotated class. -/
inductive Verdict
  /-- The request can be met. -/
  | accepted (plan : Plan)
  /-- A type that is referred to does not exist yet. -/
  | deferred
  /-- The request can never be met. -/
  | rejected (problems : List Problem)
deriving DecidableEq, Repr, Inhabited

namespace Validation

/-! ### The class itself -/

/-- Only classes can be annotated. -/
def kindProblems (decl : TypeDecl) : List Problem :=
  if decl.kind = .class_ then [] else [.wrongType decl.kind]

/-- A nested class must be accessible, and must not need an enclosing instance. -/
def nestingProblems (table : SymbolTable) (decl : TypeDecl) : List Problem :=
  if decl.name.isNested then
    (if decl.has .private_ then [.privateClass] else []) ++
      (if decl.has .static || table.isImplicitlyStatic decl.name then [] else [.innerClass])
  else []

/-- A superclass that is visible must be the generated class. -/
def superclassProblems (decl : TypeDecl) : List Problem :=
  match decl.superclass with
  | .resolved found => if found = decl.name.generated then [] else [.foreignSuperclass found]
  | .absent | .unresolved _ => []

/-! ### The delegates -/

/-- What is known after some of the delegates. -/
structure Survey where
  /-- Interfaces to delegate to, each once, with the field names asked for. -/
  accepted : List (ClassName × Option String)
  /-- Field names asked for. -/
  fieldNames : List String
  /-- Problems found. -/
  problems : List Problem
deriving DecidableEq, Repr, Inhabited

namespace Survey

/-- Nothing is known. -/
def empty : Survey := ⟨[], [], []⟩

/-- Note a problem. -/
def report (survey : Survey) (problem : Problem) : Survey :=
  { survey with problems := survey.problems ++ [problem] }

/-- Look at the field name that the entry at `index` asks for. -/
def checkName (survey : Survey) (index : Nat) : Option String → Survey
  | none => survey
  | some name =>
    if !isIdentifier name then survey.report (.invalidName index name)
    else if name ∈ survey.fieldNames then survey.report (.duplicateName index name)
    else { survey with fieldNames := survey.fieldNames ++ [name] }

/-- Take the interface of the entry at `index`, unless it was taken before. -/
def accept (survey : Survey) (index : Nat) (interface : ClassName) (fieldName? : Option String) :
    Survey :=
  if survey.accepted.any (·.1 == interface) then
    survey.report (.duplicateInterface index interface)
  else { survey with accepted := survey.accepted ++ [(interface, fieldName?)] }

/-- Look at the entry at `index`.  There is no answer if its interface does not exist yet. -/
def addEntry (table : SymbolTable) (survey : Survey) (index : Nat) (entry : DelegateEntry) :
    Option Survey :=
  match table.resolve entry.interface with
  | .missing => none
  | .impossible =>
    some ((survey.report (.notInterface index entry.interface)).checkName index entry.fieldName?)
  | .declared decl =>
    if decl.kind = .interface then
      some ((survey.checkName index entry.fieldName?).accept index decl.name entry.fieldName?)
    else
      some ((survey.report (.notInterface index decl.name.qualified)).checkName index
        entry.fieldName?)

/-- Look at the entries from `index` on, as far as their interfaces exist.  The first part of the
answer tells whether they all do. -/
def addEntries (table : SymbolTable) (survey : Survey) (index : Nat) :
    List DelegateEntry → Bool × Survey
  | [] => (true, survey)
  | entry :: rest =>
    match survey.addEntry table index entry with
    | some survey => survey.addEntries table (index + 1) rest
    | none => (false, survey)

end Survey

/-- The class to extend, and what is wrong with it.  There is no answer if it does not exist yet. -/
def superclassOf (table : SymbolTable) : Option String → Option (ClassName × List Problem)
  | none => some (table.root, [])
  | some value =>
    match table.resolve value with
    | .missing => none
    | .impossible => some (table.root, [.extendNotClass value])
    | .declared decl =>
      if decl.kind = .class_ then some (decl.name, [])
      else some (table.root, [.extendNotClass decl.name.qualified])

/-- Give every interface its field: the name asked for, or else a fresh one. -/
def nameFields (supply : NameSupply) : List (ClassName × Option String) → List Delegate
  | [] => []
  | (interface, some name) :: rest => ⟨interface, name⟩ :: nameFields supply rest
  | (interface, none) :: rest =>
    let (name, supply) := supply.allocate interface.suggestedField
    ⟨interface, name⟩ :: nameFields supply rest

/-- The delegates of a plan.  Names that are asked for are set aside before any name is made up, so
that the order of the entries does not matter to them. -/
def delegates (accepted : List (ClassName × Option String)) : List Delegate :=
  nameFields (NameSupply.empty.reserveAll (accepted.filterMap (·.2))) accepted

end Validation

open Validation in
/-- The verdict on an annotated class, given the types that are visible. -/
def validate (table : SymbolTable) (decl : TypeDecl) : Verdict :=
  let (complete, survey) := Survey.empty.addEntries table 0 decl.request.delegates
  let superclass? := if complete then superclassOf table decl.request.extend? else none
  let problems := kindProblems decl ++ nestingProblems table decl ++ superclassProblems decl ++
    survey.problems ++ (superclass?.map (·.2)).getD []
  match problems, superclass? with
  | [], some (superclass, _) =>
    .accepted ⟨decl.name, decl.name.generated, superclass, delegates survey.accepted⟩
  | [], none => .deferred
  | problems, _ => .rejected problems

end Delegation
