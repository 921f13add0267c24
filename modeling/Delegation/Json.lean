import Delegation.BaseClass

/-!
# Classes as JSON

The content of generated classes in JSON, one member to a line and two spaces per level.

## Main Definitions

* `Json` — the values that are written.
* `Json.pretty` — their text.
* `BaseClass.toJson` — a generated class.
-/

namespace Delegation

open Java

/-- A JSON value. -/
inductive Json
  | string (text : String)
  | boolean (value : Bool)
  | array (items : List Json)
  /-- An object; the members keep their order. -/
  | object (members : List (String × Json))
deriving Inhabited

namespace Json

/-- Four hexadecimal digits of a control character. -/
def fourDigits (c : Char) : List Char :=
  let digits := Nat.toDigits 16 c.toNat
  List.replicate (4 - digits.length) '0' ++ digits

/-- A character inside quotes. -/
def escaped (c : Char) : List Char :=
  match c with
  | '"' => ['\\', '"']
  | '\\' => ['\\', '\\']
  | '\n' => ['\\', 'n']
  | '\r' => ['\\', 'r']
  | '\t' => ['\\', 't']
  | '\x08' => ['\\', 'b']
  | '\x0c' => ['\\', 'f']
  | c => if c < ' ' then '\\' :: 'u' :: fourDigits c else [c]

/-- A text in quotes. -/
def quoted (text : String) : String := "\"" ++ String.ofList (text.toList.flatMap escaped) ++ "\""

/-- The start of a line at a level. -/
def margin (level : Nat) : String := String.ofList (List.replicate (2 * level) ' ')

/-- Several items between brackets, one to a line; the brackets alone if there are none. -/
def enclosed (level : Nat) (opening closing : String) (items : List String) : String :=
  if items.isEmpty then opening ++ closing
  else
    opening ++ "\n" ++ ",\n".intercalate (items.map (margin (level + 1) ++ ·)) ++ "\n" ++
      margin level ++ closing

mutual

/-- The text of a value that starts at a level. -/
def write (level : Nat) : Json → String
  | string text => quoted text
  | boolean true => "true"
  | boolean false => "false"
  | array items => enclosed level "[" "]" (writeAll (level + 1) items)
  | object members => enclosed level "\x7b" "\x7d" (writeMembers (level + 1) members)

/-- The texts of several values. -/
def writeAll (level : Nat) : List Json → List String
  | [] => []
  | item :: items => write level item :: writeAll level items

/-- The texts of the members of an object. -/
def writeMembers (level : Nat) : List (String × Json) → List String
  | [] => []
  | (key, value) :: members => (quoted key ++ ": " ++ write level value) :: writeMembers level members

end

/-- The text of a value. -/
def pretty (json : Json) : String := json.write 0

/-- A list of texts. -/
def strings (texts : List String) : Json := array (texts.map string)

end Json

/-- A class name is written with its package. -/
def Java.ClassName.toJson (name : ClassName) : Json := .string name.qualified

/-- A type is written as its text. -/
def Java.TypeName.toJson (type : TypeName) : Json := .string type.text

/-- A field as an object. -/
def Field.toJson (field : Field) : Json :=
  .object [("name", .string field.name), ("ty", field.interface.toJson)]

/-- A parameter as an object. -/
def Parameter.toJson (parameter : Parameter) : Json :=
  .object [("name", .string parameter.name), ("ty", parameter.type.toJson)]

/-- A generated constructor as an object. -/
def BaseConstructor.toJson (constructor : BaseConstructor) : Json :=
  .object [
    ("parameters", .array (constructor.parameters.map Parameter.toJson)),
    ("varargs", .boolean constructor.varargs),
    ("thrown", .array (constructor.throws.map TypeName.toJson)),
    ("super_arguments", .strings constructor.superArguments),
    ("assigned_fields", .strings constructor.assignedFields)]

/-- A forwarding method as an object. -/
def Forwarder.toJson (method : Forwarder) : Json :=
  .object [
    ("name", .string method.name),
    ("return_type", method.returns.toJson),
    ("parameters", .array (method.parameters.map Parameter.toJson)),
    ("varargs", .boolean method.varargs),
    ("thrown", .array (method.throws.map TypeName.toJson)),
    ("delegate_field", .string method.field)]

/-- A generated class as an object. -/
def BaseClass.toJson (base : BaseClass) : Json :=
  .object [
    ("name", base.name.toJson),
    ("superclass", base.superclass.toJson),
    ("interfaces", .array (base.interfaces.map ClassName.toJson)),
    ("fields", .array (base.fields.map Field.toJson)),
    ("constructors", .array (base.constructors.map BaseConstructor.toJson)),
    ("methods", .array (base.methods.map Forwarder.toJson))]

end Delegation
