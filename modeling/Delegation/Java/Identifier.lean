import Delegation.Text.Alphabetic
import Delegation.Text.Numeric

/-!
# Java identifiers

A field or parameter name is a non-empty word over letters, digits, `_` and `$` that does not start
with a digit and is none of the reserved words.

## Main Definitions

* `isNameStart`, `isNamePart` — the characters that may open and continue a name.
* `reservedWords` — keywords and literals, which are never names.
* `isIdentifier` — the test for a whole name.
-/

namespace Delegation.Java

open Delegation.Text

/-- Letters and digits of any script. -/
def isAlphanumeric (c : Char) : Bool := isAlphabetic c || isNumeric c

/-- A character that may open an identifier. -/
def isNameStart (c : Char) : Bool := isAlphabetic c || c == '_' || c == '$'

/-- A character that may stand anywhere after the first one. -/
def isNamePart (c : Char) : Bool := isAlphanumeric c || c == '_' || c == '$'

/-- Keywords and literals of the language, and the lone underscore. -/
def reservedWords : List String :=
  ["abstract", "assert", "boolean", "break", "byte", "case", "catch", "char", "class", "const",
   "continue", "default", "do", "double", "else", "enum", "extends", "final", "finally", "float",
   "for", "goto", "if", "implements", "import", "instanceof", "int", "interface", "long", "native",
   "new", "package", "private", "protected", "public", "return", "short", "static", "strictfp",
   "super", "switch", "synchronized", "this", "throw", "throws", "transient", "try", "void",
   "volatile", "while", "true", "false", "null", "_"]

/-- The shape of an identifier, reserved words included. -/
def isNameShape : List Char → Bool
  | [] => false
  | c :: rest => isNameStart c && rest.all isNamePart

/-- Whether `name` can be the name of a field or a parameter. -/
def isIdentifier (name : String) : Bool :=
  isNameShape name.toList && !reservedWords.contains name

theorem isNamePart_of_isNameStart {c : Char} (h : isNameStart c = true) : isNamePart c = true := by
  simp only [isNameStart, isNamePart, isAlphanumeric, Bool.or_eq_true] at h ⊢
  rcases h with (h | h) | h <;> simp [h]

theorem isNameShape_eq_true_iff {name : List Char} :
    isNameShape name = true ↔
      ∃ c rest, name = c :: rest ∧ isNameStart c = true ∧ ∀ d ∈ rest, isNamePart d = true := by
  cases name with
  | nil => simp [isNameShape]
  | cons c rest =>
    exact ⟨fun h => ⟨c, rest, rfl, by simpa [isNameShape] using h⟩,
      fun ⟨_, _, same, parts⟩ => by cases same; simpa [isNameShape] using parts⟩

end Delegation.Java
