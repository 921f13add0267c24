import Delegation.Java.ClassName

/-!
# Diagnostics

Messages about annotated classes.  Each points at the entry of the annotation that is to blame, or
else at the class.

## Main Definitions

* `Severity`, `Code`, `Location` — how grave a problem is, of which sort, and where.
* `Diagnostic` — a message with these.
* `Diagnostic.text` — a diagnostic in full.
* `hasErrors`, `errorCount`, `withCode` — questions to a list of diagnostics.
-/

namespace Delegation

open Java

/-- How grave a diagnostic is. -/
inductive Severity
  /-- The class is not generated. -/
  | error
  /-- The class is generated, with advice. -/
  | warning
deriving DecidableEq, Repr, Inhabited

/-- The sorts of diagnostics. -/
inductive Code
  /-- The annotated declaration is no class. -/
  | wrongType
  /-- A nested class is private. -/
  | privateClass
  /-- A nested class needs an enclosing instance. -/
  | innerClass
  /-- The class extends something other than its generated base class. -/
  | superclassMismatch
  /-- A delegate is no interface. -/
  | notInterface
  /-- The class to extend is no class. -/
  | extendNotClass
  /-- A field name is no identifier. -/
  | invalidName
  /-- Two delegates have one interface. -/
  | duplicateInterface
  /-- Two delegates ask for one field name. -/
  | duplicateName
  /-- A type that is referred to never appeared. -/
  | undefined
  /-- The generator failed. -/
  | internalException
  /-- A method is inherited from several delegates. -/
  | ambiguousMethod
deriving DecidableEq, Repr, Inhabited

namespace Code

/-- Every code. -/
def all : List Code :=
  [wrongType, privateClass, innerClass, superclassMismatch, notInterface, extendNotClass,
   invalidName, duplicateInterface, duplicateName, undefined, internalException, ambiguousMethod]

/-- The part of the tag that tells the codes apart. -/
def shortTag : Code → String
  | wrongType => "WrongType"
  | privateClass => "Private"
  | innerClass => "Inner"
  | superclassMismatch => "SuperClass"
  | notInterface => "Interface"
  | extendNotClass => "Extend"
  | invalidName => "InvalidName"
  | duplicateInterface => "DuplicateInterface"
  | duplicateName => "DuplicateName"
  | undefined => "Undefined"
  | internalException => "Exception"
  | ambiguousMethod => "AmbiguousMethod"

/-- The tag shown before a message. -/
def tag (code : Code) : String := "AutoDelegate" ++ code.shortTag

end Code

/-- Where a diagnostic points. -/
inductive Location
  /-- The annotated type. -/
  | type (name : ClassName)
  /-- An entry of the list of delegates, counted from zero. -/
  | delegate (name : ClassName) (index : Nat)
  /-- The entry for the class to extend. -/
  | extend (name : ClassName)
deriving DecidableEq, Repr, Inhabited

namespace Location

/-- The annotated type that a location belongs to. -/
def typeName : Location → ClassName
  | type name | delegate name _ | extend name => name

/-- The text of a location. -/
def text : Location → String
  | type name => name.qualified
  | delegate name index =>
    name.qualified ++ "@AutoDelegate.delegates[" ++ toString index ++ "]"
  | extend name => name.qualified ++ "@AutoDelegate.extend"

end Location

/-- A message about an annotated class. -/
structure Diagnostic where
  severity : Severity
  code : Code
  message : String
  location : Location
deriving DecidableEq, Repr, Inhabited

namespace Diagnostic

/-- A diagnostic that keeps its class from being generated. -/
def error (code : Code) (message : String) (location : Location) : Diagnostic :=
  ⟨.error, code, message, location⟩

/-- A diagnostic that gives advice. -/
def warning (code : Code) (message : String) (location : Location) : Diagnostic :=
  ⟨.warning, code, message, location⟩

/-- Whether the diagnostic is an error. -/
def isError (diagnostic : Diagnostic) : Bool := diagnostic.severity == .error

/-- The diagnostic in full, severity first. -/
def text (diagnostic : Diagnostic) : String :=
  let severity := match diagnostic.severity with
    | .error => "ERROR"
    | .warning => "WARN"
  "[" ++ severity ++ "] " ++ diagnostic.location.text ++ ": [" ++ diagnostic.code.tag ++ "] "
    ++ diagnostic.message

/-- Whether a list contains an error. -/
def hasErrors (diagnostics : List Diagnostic) : Bool := diagnostics.any isError

/-- How many errors a list contains. -/
def errorCount (diagnostics : List Diagnostic) : Nat := diagnostics.countP isError

/-- The diagnostics of one sort. -/
def withCode (diagnostics : List Diagnostic) (code : Code) : List Diagnostic :=
  diagnostics.filter (·.code == code)

end Diagnostic

end Delegation
