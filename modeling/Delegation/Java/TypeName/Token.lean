import Delegation.Java.Identifier
import Delegation.Text.Blank

/-!
# Tokens of type text

Type text is cut into words and single signs.  A word is a maximal run of letters, digits, `_`, `$`
and dots, so a dotted class name is one word; white space separates words and is otherwise ignored.

## Main Definitions

* `Token` — a word or a sign.
* `Token.scan` — the tokens of a text.
-/

namespace Delegation.Java

open Delegation.Text

/-- A character of a word: anything that may stand in a dotted name. -/
def isWordPart (c : Char) : Bool := isNamePart c || c == '.'

/-- A token of type text. -/
inductive Token
  /-- A keyword or a dotted class name. -/
  | word (text : String)
  /-- `?` -/
  | question
  /-- `<` -/
  | less
  /-- `>` -/
  | greater
  /-- `,` -/
  | comma
  /-- `[` -/
  | openBracket
  /-- `]` -/
  | closeBracket
  /-- A sign that no type contains. -/
  | stray (sign : Char)
deriving DecidableEq, Repr, Inhabited

namespace Token

/-- The token of a sign. -/
def ofSign : Char → Token
  | '?' => question
  | '<' => less
  | '>' => greater
  | ',' => comma
  | '[' => openBracket
  | ']' => closeBracket
  | sign => stray sign

/-- The token of a run of characters: a word, nothing for white space, else a single sign. -/
def ofRun? : List Char → Option Token
  | [] => none
  | c :: rest =>
    if isWordPart c then some (word (String.ofList (c :: rest)))
    else if isBlank c then none
    else some (ofSign c)

/-- Cut a text into maximal runs of word characters and single other characters. -/
def runs (text : List Char) : List (List Char) :=
  text.splitBy fun c d => isWordPart c && isWordPart d

/-- The tokens of a text. -/
def scan (text : List Char) : List Token := (runs text).filterMap ofRun?

@[simp] theorem scan_nil : scan [] = [] := rfl

end Token

end Delegation.Java
