import Delegation.BaseClass
import Delegation.Options
import Delegation.Source.Imports
import Delegation.Source.Path

/-!
# Source files

The text of a generated class: package and imports, the mark of generated code, and the class with
its members in order.  Levels are indented by two spaces.

## Main Definitions

* `SourceFile` — the text of one class.
* `render` — the source of a base class.
-/

namespace Delegation

open Java

/-- The source of one class. -/
structure SourceFile where
  name : ClassName
  source : String
deriving DecidableEq, Repr, Inhabited

/-- The path of the file below a source root. -/
def SourceFile.path (file : SourceFile) : String := Source.sourcePath file.name

namespace Source

/-- Put lines one level deeper; empty lines stay empty. -/
def indent (lines : List String) : List String :=
  lines.map fun line => if line.isEmpty then line else "  " ++ line

/-- The lines of a block: a header that opens it, its content, and the closing brace. -/
def block (header : String) (content : List String) : List String :=
  (header ++ " \x7b") :: indent content ++ ["\x7d"]

/-- Lines followed by an empty one; nothing if there are no lines. -/
def paragraph (lines : List String) : List String := if lines.isEmpty then [] else lines ++ [""]

/-- The text of a list of lines, each ended. -/
def unlines (lines : List String) : String := String.join (lines.map (· ++ "\n"))

/-- Items separated by commas. -/
def commaSeparated (items : List String) : String := ", ".intercalate items

/-- A clause of several names behind a keyword; nothing if there are none. -/
def clause (keyword : String) (names : List String) : String :=
  if names.isEmpty then "" else " " ++ keyword ++ " " ++ commaSeparated names

namespace Imports

/-- A parameter as it is declared. -/
def parameterText (imports : Imports) (parameter : Parameter) : String :=
  imports.typeText parameter.type ++ " " ++ parameter.name

/-- A parameter that takes any number of arguments, if its type is an array. -/
def varargsText (imports : Imports) (parameter : Parameter) : String :=
  match parameter.type with
  | .array component => imports.typeText component ++ "... " ++ parameter.name
  | _ => imports.parameterText parameter

/-- A list of parameters as it is declared, without parentheses. -/
def parametersText (imports : Imports) (parameters : List Parameter) (varargs : Bool) : String :=
  let fixed := if varargs then parameters.dropLast else parameters
  let open_ := if varargs then parameters.getLast?.toList else []
  commaSeparated (fixed.map imports.parameterText ++ open_.map imports.varargsText)

/-- Name, parameters and `throws` clause of a member. -/
def signatureText (imports : Imports) (name : String) (parameters : List Parameter)
    (varargs : Bool) (throws : List TypeName) : String :=
  name ++ "(" ++ imports.parametersText parameters varargs ++ ")" ++
    clause "throws" (throws.map imports.typeText)

/-- The declaration of a field. -/
def fieldLine (imports : Imports) (field : Field) : String :=
  "private final " ++ imports.nameOf field.interface ++ " " ++ field.name ++ ";"

/-- The lines of a constructor of the class with the given simple name. -/
def constructorLines (imports : Imports) (name : String) (constructor : BaseConstructor) :
    List String :=
  block
    (imports.signatureText name constructor.parameters constructor.varargs constructor.throws)
    (("super(" ++ commaSeparated constructor.superArguments ++ ");") ::
      constructor.assignedFields.map fun field => "this." ++ field ++ " = " ++ field ++ ";")

/-- The call that a forwarding method makes. -/
def callText (method : Forwarder) : String :=
  "this." ++ method.field ++ "." ++ method.name ++ "(" ++
    commaSeparated (method.parameters.map (·.name)) ++ ");"

/-- The lines of a forwarding method. -/
def methodLines (imports : Imports) (method : Forwarder) : List String :=
  "@Override" ::
    block
      ("public " ++ imports.typeText method.returns ++ " " ++
        imports.signatureText method.name method.parameters method.varargs method.throws)
      [if method.returnsValue then "return " ++ callText method else callText method]

/-- The head of a class; the root class need not be named as the superclass. -/
def classHeader (imports : Imports) (base : BaseClass) : String :=
  let superclass :=
    if base.superclass.qualified = ClassName.object.qualified then []
    else [imports.nameOf base.superclass]
  "abstract class " ++ base.name.simpleName ++ clause "extends" superclass ++
    clause "implements" (base.interfaces.map imports.nameOf)

/-- The members of a class, with an empty line before every constructor and method. -/
def memberLines (imports : Imports) (base : BaseClass) : List String :=
  base.fields.map imports.fieldLine ++
    (base.constructors.map (imports.constructorLines base.name.simpleName) ++
      base.methods.map imports.methodLines).flatMap ("" :: ·)

end Imports

/-- Every class that the source of a class mentions, the class itself included. -/
def references (base : BaseClass) (options : Options) : List ClassName :=
  base.name :: (base.classes ++ options.marker?.toList)

/-- The imports of the source of a class. -/
def importsOf (base : BaseClass) (options : Options) : Imports :=
  .ofReferences base.name.package (references base options)

/-- The mark of generated code. -/
def markerLine (imports : Imports) (marker : ClassName) : String :=
  "@" ++ imports.nameOf marker ++ "(\"" ++ Options.generatorName ++ "\")"

/-- The `package` line; a class of the unnamed package has none. -/
def packageLines (package : String) : List String :=
  if package.isEmpty then [] else ["package " ++ package ++ ";"]

/-- The lines of the source of a class. -/
def sourceLines (base : BaseClass) (options : Options) : List String :=
  let imports := importsOf base options
  paragraph (packageLines base.name.package) ++
    paragraph (imports.targets.map fun target => "import " ++ target ++ ";") ++
    options.marker?.toList.map (markerLine imports) ++
    block (imports.classHeader base) (imports.memberLines base)

end Source

/-- The source of a base class. -/
def render (base : BaseClass) (options : Options) : SourceFile :=
  ⟨base.name, Source.unlines (Source.sourceLines base options)⟩

end Delegation
