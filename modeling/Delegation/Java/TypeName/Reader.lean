import Delegation.Java.TypeName
import Delegation.Java.TypeName.Token

/-!
# Reading a type

A type is a base followed by pairs of brackets.  A base is a wildcard, which may carry a bound, or
a word: `void`, a primitive type, or a class with optional type arguments.  Brackets after a bounded
wildcard belong to its bound, and `void` takes none.

## Main Definitions

* `TypeName.readType`, `TypeName.readArguments` — read from tokens, together with the tokens left
  over.
* `TypeName.ofText?` — read a whole text.

The readers recurse on a bound.  Going down into a wildcard's bound or into type arguments uses up
two tokens and costs at most two steps, so the number of tokens is bound enough.
-/

namespace Delegation.Java.TypeName

/-- Wrap a type in an array for each pair of brackets that follows. -/
def readBrackets (type : TypeName) : List Token → Option (TypeName × List Token)
  | .openBracket :: .closeBracket :: rest =>
    if type.isVoid then none else readBrackets (array type) rest
  | .openBracket :: _ => none
  | rest => some (type, rest)

/-- The type of a word that stands without type arguments. -/
def ofWord? (word : String) : Option TypeName :=
  if word = "void" then some void
  else
    match Primitive.ofKeyword? word with
    | some type => some (primitive type)
    | none => (ClassName.ofDotted? word).map plain

/-- The class of a word, which is then no keyword of a type. -/
def classOfWord? (word : String) : Option ClassName := (ofWord? word).bind plainClass?

mutual

/-- Read a base and the brackets after it. -/
def readType : Nat → List Token → Option (TypeName × List Token)
  | 0, _ => none
  | bound + 1, .question :: .word word :: rest =>
    match Bound.ofKeyword? word with
    | some side =>
      match readType bound rest with
      | some (type, rest) => some (bounded side type, rest)
      | none => none
    | none => some (wildcard, .word word :: rest)
  | _ + 1, .question :: rest => readBrackets wildcard rest
  | bound + 1, .word word :: .less :: rest =>
    match classOfWord? word with
    | some class_ =>
      match readArguments bound rest with
      | some (arguments, rest) => readBrackets (declared class_ arguments) rest
      | none => none
    | none => (ofWord? word).map fun type => (type, .less :: rest)
  | _ + 1, .word word :: rest => (ofWord? word).bind fun type => readBrackets type rest
  | _ + 1, _ => none

/-- Read type arguments up to and including the closing `>`. -/
def readArguments : Nat → List Token → Option (List TypeName × List Token)
  | 0, _ => none
  | bound + 1, tokens =>
    match readType bound tokens with
    | some (type, .greater :: rest) => some ([type], rest)
    | some (type, .comma :: rest) =>
      match readArguments bound rest with
      | some (types, rest) => some (type :: types, rest)
      | none => none
    | _ => none

end

/-- Read a type from the whole of a text. -/
def ofText? (text : String) : Option TypeName :=
  let tokens := Token.scan text.toList
  match readType (tokens.length + 1) tokens with
  | some (type, []) => some type
  | _ => none

end Delegation.Java.TypeName
