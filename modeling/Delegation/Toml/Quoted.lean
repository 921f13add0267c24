import Delegation.Toml.Literal

/-!
# Quoted text

The four ways to write a string: basic strings with escapes, literal strings without, and both over
several lines.  Line ends inside a string become single line feeds.

## Main Definitions

* `readBasic`, `readLiteral` — the rest of a string on one line, after its opening quote.
* `readLongBasic`, `readLongLiteral` — the rest of a string over several lines.
* `readString` — a string of any sort.

Each reader gives the text and what comes after the closing quotes.
-/

namespace Delegation.Toml

/-- A space or a tab. -/
def isSpace (c : Char) : Bool := c == ' ' || c == '\t'

/-- A character that may stand in a comment or a string: no control character but the tab. -/
def isPlain (c : Char) : Bool := c == '\t' || (' ' ≤ c && c != '\x7f')

/-- Put a character in front of the text that a reader gives. -/
def prepend (c : Char) : Option (List Char × List Char) → Option (List Char × List Char)
  | some (text, rest) => some (c :: text, rest)
  | none => none

/-- The character that a letter behind a backslash stands for. -/
def escape? : Char → Option Char
  | 'b' => some '\x08'
  | 't' => some '\t'
  | 'n' => some '\n'
  | 'f' => some '\x0c'
  | 'r' => some '\r'
  | '"' => some '"'
  | '\\' => some '\\'
  | _ => none

/-- The character with a code point in hexadecimal digits. -/
def codePoint? (digits : List Char) : Option Char :=
  let value := numberOf 16 digits
  if h : digits.all isHexDigit ∧ value.isValidChar then some (Char.ofNatAux value h.2) else none

/-- Continue after an escaped character, which may turn out to be none. -/
def prepend? (c? : Option Char) (result : Option (List Char × List Char)) :
    Option (List Char × List Char) :=
  c?.bind (prepend · result)

/-- The rest of a basic string on one line. -/
def readBasic : List Char → Option (List Char × List Char)
  | '"' :: rest => some ([], rest)
  | '\\' :: 'u' :: a :: b :: c :: d :: rest => prepend? (codePoint? [a, b, c, d]) (readBasic rest)
  | '\\' :: 'U' :: a :: b :: c :: d :: e :: f :: g :: h :: rest =>
    prepend? (codePoint? [a, b, c, d, e, f, g, h]) (readBasic rest)
  | '\\' :: c :: rest => prepend? (escape? c) (readBasic rest)
  | c :: rest => if isPlain c && c != '\\' then prepend c (readBasic rest) else none
  | [] => none

/-- The rest of a literal string on one line. -/
def readLiteral : List Char → Option (List Char × List Char)
  | '\'' :: rest => some ([], rest)
  | c :: rest => if isPlain c then prepend c (readLiteral rest) else none
  | [] => none

/-- How the next white space in a long basic string is taken. -/
inductive Spacing
  /-- It belongs to the text. -/
  | kept
  /-- A backslash came before it: a line end must follow. -/
  | ending
  /-- An escaped line end came before it: it is left out. -/
  | skipped
deriving DecidableEq, Repr

/-- The rest of a basic string over several lines.  Up to two quotes may stand directly before the
closing ones. -/
def readLongBasic : Spacing → List Char → Option (List Char × List Char)
  | .ending, '\n' :: rest => readLongBasic .skipped rest
  | .ending, '\r' :: '\n' :: rest => readLongBasic .skipped rest
  | .ending, c :: rest => if isSpace c then readLongBasic .ending rest else none
  | .skipped, '\n' :: rest => readLongBasic .skipped rest
  | .skipped, '\r' :: '\n' :: rest => readLongBasic .skipped rest
  | .skipped, ' ' :: rest => readLongBasic .skipped rest
  | .skipped, '\t' :: rest => readLongBasic .skipped rest
  | _, '"' :: '"' :: '"' :: '"' :: '"' :: rest => some (['"', '"'], rest)
  | _, '"' :: '"' :: '"' :: '"' :: rest => some (['"'], rest)
  | _, '"' :: '"' :: '"' :: rest => some ([], rest)
  | _, '\\' :: 'u' :: a :: b :: c :: d :: rest =>
    prepend? (codePoint? [a, b, c, d]) (readLongBasic .kept rest)
  | _, '\\' :: 'U' :: a :: b :: c :: d :: e :: f :: g :: h :: rest =>
    prepend? (codePoint? [a, b, c, d, e, f, g, h]) (readLongBasic .kept rest)
  | _, '\\' :: '\n' :: rest => readLongBasic .skipped rest
  | _, '\\' :: '\r' :: '\n' :: rest => readLongBasic .skipped rest
  | _, '\\' :: c :: rest =>
    if isSpace c then readLongBasic .ending rest
    else prepend? (escape? c) (readLongBasic .kept rest)
  | _, '\n' :: rest => prepend '\n' (readLongBasic .kept rest)
  | _, '\r' :: '\n' :: rest => prepend '\n' (readLongBasic .kept rest)
  | _, c :: rest => if isPlain c && c != '\\' then prepend c (readLongBasic .kept rest) else none
  | _, [] => none

/-- The rest of a literal string over several lines.  Up to two quotes may stand directly before the
closing ones. -/
def readLongLiteral : List Char → Option (List Char × List Char)
  | '\'' :: '\'' :: '\'' :: '\'' :: '\'' :: rest => some (['\'', '\''], rest)
  | '\'' :: '\'' :: '\'' :: '\'' :: rest => some (['\''], rest)
  | '\'' :: '\'' :: '\'' :: rest => some ([], rest)
  | '\n' :: rest => prepend '\n' (readLongLiteral rest)
  | '\r' :: '\n' :: rest => prepend '\n' (readLongLiteral rest)
  | c :: rest => if isPlain c then prepend c (readLongLiteral rest) else none
  | [] => none

/-- A line end directly after the opening quotes does not count. -/
def dropLineEnd : List Char → List Char
  | '\n' :: rest => rest
  | '\r' :: '\n' :: rest => rest
  | rest => rest

/-- A string on one line, as keys may be written too. -/
def readShortString : List Char → Option (List Char × List Char)
  | '"' :: rest => readBasic rest
  | '\'' :: rest => readLiteral rest
  | _ => none

/-- A string of any sort. -/
def readString : List Char → Option (List Char × List Char)
  | '"' :: '"' :: '"' :: rest => readLongBasic .kept (dropLineEnd rest)
  | '\'' :: '\'' :: '\'' :: rest => readLongLiteral (dropLineEnd rest)
  | text => readShortString text

end Delegation.Toml
