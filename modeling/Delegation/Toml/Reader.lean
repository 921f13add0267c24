import Delegation.Toml.Quoted
import Delegation.Toml.Table

/-!
# Reading TOML

Keys, values and statements, read from a list of characters.

## Main Definitions

* `readKey` — a key of one or several parts.
* `readValue` — a value.
* `Statement`, `readStatements` — assignments and headers, one to a line.
* `parse?` — the table that a text denotes.

Arrays and inline tables may be nested up to a fixed depth, on which `readValue` recurses.  Lists of
things are read by recursion on a bound, the number of characters.
-/

namespace Delegation.Toml

/-- A reader takes something off the front of a text. -/
abbrev Reader (α : Type) := List Char → Option (α × List Char)

/-! ### Space, line ends and comments -/

/-- Drop spaces and tabs. -/
def dropSpace (text : List Char) : List Char := text.dropWhile isSpace

/-- Drop space, line ends and comments, as may stand between the items of an array.  Within a comment
only a line end makes an end; where another control character stops it, so does the dropping. -/
def dropGap : Bool → List Char → List Char
  | _, '\n' :: rest => dropGap false rest
  | _, '\r' :: '\n' :: rest => dropGap false rest
  | true, c :: rest => if isPlain c then dropGap true rest else c :: rest
  | false, '#' :: rest => dropGap true rest
  | false, c :: rest => if isSpace c then dropGap false rest else c :: rest
  | _, [] => []

/-- Take a line end off a text, before which there may be space and a comment.  The end of the text
ends a line too. -/
def afterLine? (text : List Char) : Option (List Char) :=
  let text := dropSpace text
  let text := if text.head? = some '#' then text.dropWhile isPlain else text
  match text with
  | [] => some []
  | '\n' :: rest => some rest
  | '\r' :: '\n' :: rest => some rest
  | _ => none

/-! ### Keys -/

/-- A character of a key without quotes. -/
def isKeyPart (c : Char) : Bool := c.isAlphanum || c == '-' || c == '_'

/-- One part of a key. -/
def readKeyPart : Reader String := fun text =>
  match text with
  | '"' :: _ | '\'' :: _ => (readShortString text).map fun (key, rest) => (String.ofList key, rest)
  | _ =>
    match text.takeWhile isKeyPart with
    | [] => none
    | key => some (String.ofList key, text.dropWhile isKeyPart)

/-- The parts of a key, separated by dots. -/
def readKeyParts : Nat → Reader (List String)
  | 0, _ => none
  | bound + 1, text =>
    match readKeyPart (dropSpace text) with
    | none => none
    | some (part, rest) =>
      match dropSpace rest with
      | '.' :: rest => (readKeyParts bound rest).map fun (parts, rest) => (part :: parts, rest)
      | rest => some ([part], rest)

/-- How deep arrays and inline tables may be nested, and how many parts a key may have. -/
def maxDepth : Nat := 79

/-- A key with the path to it. -/
structure Key where
  path : List String
  last : String

/-- Read a key. -/
def readKey : Reader Key := fun text =>
  match readKeyParts (text.length + 1) text with
  | none => none
  | some (parts, rest) =>
    if parts.length ≤ maxDepth then
      parts.getLast?.map fun last => (⟨parts.dropLast, last⟩, rest)
    else none

/-! ### Values -/

/-- A character of a literal. -/
def isLiteralPart (c : Char) : Bool :=
  c.isAlphanum || c == '+' || c == '-' || c == '_' || c == '.' || c == ':'

/-- The characters of a literal.  A date may be followed by a space and a time. -/
def splitLiteral (text : List Char) : List Char × List Char :=
  let literal := text.takeWhile isLiteralPart
  match isFullDate literal, text.dropWhile isLiteralPart with
  | true, ' ' :: c :: rest =>
    if c.isDigit then
      (literal ++ ' ' :: (c :: rest).takeWhile isLiteralPart, (c :: rest).dropWhile isLiteralPart)
    else (literal, ' ' :: c :: rest)
  | _, rest => (literal, rest)

/-- Read a value without brackets. -/
def readScalar : Reader Value := fun text =>
  match text with
  | '"' :: _ | '\'' :: _ =>
    (readString text).map fun (content, rest) => (.string (String.ofList content), rest)
  | _ =>
    let (literal, rest) := splitLiteral text
    (ofLiteral? literal).map fun value => (value, rest)

/-- Read the items of an array and its closing bracket. -/
def readItems (item : Reader Value) : Nat → Reader (List Value)
  | 0, _ => none
  | bound + 1, text =>
    match dropGap false text with
    | ']' :: rest => some ([], rest)
    | text =>
      match item text with
      | none => none
      | some (value, rest) =>
        match dropGap false rest with
        | ',' :: rest =>
          (readItems item bound rest).map fun (values, rest) => (value :: values, rest)
        | ']' :: rest => some ([value], rest)
        | _ => none

/-- Read an assignment, without the line end. -/
def readAssignment (value : Reader Value) : Reader (Key × Value) := fun text =>
  match readKey text with
  | some (key, '=' :: rest) =>
    (value (dropSpace rest)).map fun (value, rest) => ((key, value), rest)
  | _ => none

/-- Read the assignments of an inline table and its closing brace, and carry them out. -/
def readFields (value : Reader Value) : Nat → Entries → Reader Entries
  | 0, _, _ => none
  | bound + 1, entries, text =>
    match readAssignment value text with
    | none => none
    | some ((key, value_), rest) =>
      match assign key.path key.last value_ entries, dropSpace rest with
      | some entries, ',' :: rest => readFields value bound entries rest
      | some entries, '\x7d' :: rest => some (entries, rest)
      | _, _ => none

/-- Read an inline table after its opening brace. -/
def readInline (value : Reader Value) : Reader Value := fun text =>
  match dropSpace text with
  | '\x7d' :: rest => some (.table [], rest)
  | text =>
    (readFields value (text.length + 1) [] text).map fun (entries, rest) =>
      (.table (Node.toEntries entries), rest)

/-- Read a value in which brackets and braces are nested at most to a depth. -/
def readValue : Nat → Reader Value
  | 0, text => readScalar text
  | depth + 1, text =>
    match text with
    | '[' :: rest =>
      (readItems (readValue depth) (rest.length + 1) rest).map fun (items, rest) =>
        (.array items, rest)
    | '\x7b' :: rest => readInline (readValue depth) rest
    | text => readScalar text

/-! ### Documents -/

/-- A statement of a document. -/
inductive Statement
  /-- `key = value` -/
  | assign (key : Key) (value : Value)
  /-- `[key]` -/
  | openTable (key : Key)
  /-- `[[key]]` -/
  | appendTable (key : Key)

/-- Read a statement without the line end. -/
def readStatement : Reader Statement := fun text =>
  match text with
  | '[' :: '[' :: rest =>
    match readKey rest with
    | some (key, ']' :: ']' :: rest) => some (.appendTable key, rest)
    | _ => none
  | '[' :: rest =>
    match readKey rest with
    | some (key, ']' :: rest) => some (.openTable key, rest)
    | _ => none
  | text =>
    (readAssignment (readValue maxDepth) text).map fun ((key, value), rest) =>
      (.assign key value, rest)

/-- Read the statements of a document line by line. -/
def readStatements : Nat → List Char → Option (List Statement)
  | 0, _ => none
  | bound + 1, text =>
    match dropSpace text, afterLine? text with
    | [], _ => some []
    | _, some rest => readStatements bound rest
    | text, none =>
      match readStatement text with
      | none => none
      | some (statement, rest) =>
        match afterLine? rest with
        | none => none
        | some rest => (readStatements bound rest).map (statement :: ·)

/-- A document while it is built: all entries, and the path of the table that is open. -/
structure Document where
  entries : Entries
  table : List String

/-- Assign a value within the table that a header has opened. -/
def assignWithin (table : List String) (key : Key) (value : Value) (entries : Entries) :
    Option Entries :=
  descend .implied (fun _ entries => assign key.path key.last value entries) table .header entries

/-- Carry out a statement. -/
def Document.execute (document : Document) : Statement → Option Document
  | .assign key value =>
    (assignWithin document.table key value document.entries).map fun entries =>
      { document with entries }
  | .openTable key =>
    (openTable key.path key.last document.entries).map fun entries =>
      ⟨entries, key.path ++ [key.last]⟩
  | .appendTable key =>
    (appendTable key.path key.last document.entries).map fun entries =>
      ⟨entries, key.path ++ [key.last]⟩

/-- A text without the byte order mark that may stand at its start. -/
def dropMark : List Char → List Char
  | '\uFEFF' :: rest => rest
  | text => text

/-- The table that a text denotes, if it is a document. -/
def parse? (text : String) : Option Value := do
  let text := dropMark text.toList
  let statements ← readStatements (text.length + 1) text
  let document ← statements.foldlM Document.execute ⟨[], []⟩
  return .table (Node.toEntries document.entries)

end Delegation.Toml
