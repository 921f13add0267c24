import Delegation.Toml.Value

/-!
# Bare literals

Booleans, integers, floats and dates are written without quotes, as an unbroken run of characters.
(A date and its time may be set apart by a space, which the caller puts into the run.)

## Main Definitions

* `ofLiteral?` — the value of a literal.
* `isDigits` — digits with underscores between them.
* `integer?`, `isFloat`, `isDateTime` — the kinds of literals.
* `isFullDate` — a date without a time.

Integers have 64 bits, and a float must not be too large for a double.
-/

namespace Delegation.Toml

/-! ### Digits -/

/-- Whether digits of some kind are separated by single underscores, with digits at both ends. -/
def isDigits (isDigit : Char → Bool) : List Char → Bool
  | [] => false
  | [c] => isDigit c
  | c :: '_' :: rest => isDigit c && isDigits isDigit rest
  | c :: rest => isDigit c && isDigits isDigit rest

/-- A digit of a hexadecimal number. -/
def isHexDigit (c : Char) : Bool :=
  c.isDigit || ('a' ≤ c && c ≤ 'f') || ('A' ≤ c && c ≤ 'F')

/-- A digit of a number to the base eight. -/
def isOctalDigit (c : Char) : Bool := '0' ≤ c && c ≤ '7'

/-- A digit of a number to the base two. -/
def isBinaryDigit (c : Char) : Bool := c == '0' || c == '1'

/-- The value of a digit, letters counting from ten. -/
def digitValue (c : Char) : Nat :=
  if c.isDigit then c.toNat - '0'.toNat
  else if c.isLower then c.toNat - 'a'.toNat + 10
  else c.toNat - 'A'.toNat + 10

/-- The number that digits to a base denote; underscores are passed over. -/
def numberOf (base : Nat) (digits : List Char) : Nat :=
  (digits.filter (· != '_')).foldl (fun value c => value * base + digitValue c) 0

/-- Take a sign off a number; the answer tells whether it is a minus. -/
def splitSign : List Char → Bool × List Char
  | '+' :: rest => (false, rest)
  | '-' :: rest => (true, rest)
  | text => (false, text)

/-! ### Integers -/

/-- Decimal digits without a superfluous zero at the start. -/
def isDecimal (text : List Char) : Bool :=
  isDigits Char.isDigit text && (text.head? != some '0' || text.length == 1)

/-- The integers that fit into 64 bits. -/
def fitsWord (value : Int) : Bool := Int64.minValue.toInt ≤ value && value ≤ Int64.maxValue.toInt

/-- A number with a prefix for its base. -/
def based? (base : Nat) (isDigit : Char → Bool) (digits : List Char) : Option Int :=
  if isDigits isDigit digits then some (numberOf base digits) else none

/-- The integer that a text denotes, whatever its size. -/
def unboundedInteger? : List Char → Option Int
  | '0' :: 'x' :: digits => based? 16 isHexDigit digits
  | '0' :: 'o' :: digits => based? 8 isOctalDigit digits
  | '0' :: 'b' :: digits => based? 2 isBinaryDigit digits
  | text =>
    let (negative, digits) := splitSign text
    if isDecimal digits then
      let magnitude : Int := numberOf 10 digits
      some (if negative then -magnitude else magnitude)
    else none

/-- The integer that a text denotes. -/
def integer? (text : List Char) : Option Int := (unboundedInteger? text).filter fitsWord

/-! ### Floats -/

/-- Split a text before the first character of a class. -/
def splitBefore (stops : Char → Bool) (text : List Char) : List Char × List Char :=
  (text.takeWhile (!stops ·), text.dropWhile (!stops ·))

/-- The parts of a float: whole part, fraction and exponent, the latter two with the sign that
introduces them. -/
structure FloatParts where
  negative : Bool
  whole : List Char
  fraction : List Char
  exponent : List Char

/-- Take a float apart. -/
def floatParts (text : List Char) : FloatParts :=
  let (negative, text) := splitSign text
  let (mantissa, exponent) := splitBefore (fun c => c == 'e' || c == 'E') text
  let (whole, fraction) := splitBefore (· == '.') mantissa
  ⟨negative, whole, fraction, exponent⟩

/-- A fraction is a point with digits, or left out. -/
def isFraction : List Char → Bool
  | [] => true
  | _ :: digits => isDigits Char.isDigit digits

/-- An exponent has a sign or none, and digits; or it is left out. -/
def isExponent : List Char → Bool
  | [] => true
  | _ :: number => isDigits Char.isDigit (splitSign number).2

/-- The smallest number that is too large for a double: half a step beyond the largest one. -/
def doubleLimit : Nat := (1 <<< 1024) - (1 <<< 970)

/-- Whether `mantissa * 10 ^ exponent` is too large for a double. -/
def exceedsDouble (mantissa : Nat) (exponent : Int) : Bool :=
  let digits : Int := (Nat.toDigits 10 mantissa).length
  if mantissa = 0 || digits + exponent < 300 then false
  else if digits + exponent > 320 then true
  else if 0 ≤ exponent then doubleLimit ≤ mantissa * Nat.pow 10 exponent.toNat
  else doubleLimit * Nat.pow 10 (-exponent).toNat ≤ mantissa

/-- The size of an exponent.  Digits after the point where it has reached `0x10000` are passed over:
by then it exceeds the range of doubles many times. -/
def exponentSize (digits : List Char) : Nat :=
  (digits.filter (· != '_')).foldl
    (fun size c => if size < 0x10000 then size * 10 + digitValue c else size) 0

namespace FloatParts

/-- The exponent as a number. -/
def scale (parts : FloatParts) : Int :=
  let (negative, digits) := splitSign (parts.exponent.drop 1)
  let magnitude : Int := exponentSize digits
  if negative then -magnitude else magnitude

/-- Whether the parts make up a float and not an integer. -/
def isValid (parts : FloatParts) : Bool :=
  isDecimal parts.whole && isFraction parts.fraction && isExponent parts.exponent &&
    !(parts.fraction.isEmpty && parts.exponent.isEmpty)

/-- Whether the float is larger than any double. -/
def isTooLarge (parts : FloatParts) : Bool :=
  let fraction := (parts.fraction.drop 1).filter (· != '_')
  !parts.negative &&
    exceedsDouble (numberOf 10 (parts.whole ++ fraction)) (parts.scale - fraction.length)

end FloatParts

/-- Infinity and not-a-number, with or without a sign. -/
def isSpecialFloat (text : List Char) : Bool :=
  let name := (splitSign text).2
  name == "inf".toList || name == "nan".toList

/-- Whether a text is a float. -/
def isFloat (text : List Char) : Bool :=
  let parts := floatParts text
  isSpecialFloat text || (parts.isValid && !parts.isTooLarge)

/-! ### Dates and times -/

/-- Two digits that denote a number between two bounds. -/
def isTwoDigits (low high : Nat) (a b : Char) : Bool :=
  a.isDigit && b.isDigit && low ≤ numberOf 10 [a, b] && numberOf 10 [a, b] ≤ high

/-- The number of days of a month. -/
def daysOf (year month : Nat) : Nat :=
  let isLeap := year % 4 = 0 && (year % 100 ≠ 0 || year % 400 = 0)
  match month with
  | 2 => if isLeap then 29 else 28
  | 4 | 6 | 9 | 11 => 30
  | _ => 31

/-- Take a date off a text. -/
def afterDate? : List Char → Option (List Char)
  | a :: b :: c :: d :: '-' :: m :: n :: '-' :: x :: y :: rest =>
    if [a, b, c, d].all Char.isDigit && isTwoDigits 1 12 m n &&
        isTwoDigits 1 (daysOf (numberOf 10 [a, b, c, d]) (numberOf 10 [m, n])) x y then some rest
    else none
  | _ => none

/-- Take fractions of a second off a text, if there are any. -/
def afterFraction? : List Char → Option (List Char)
  | '.' :: c :: rest => if c.isDigit then some (rest.dropWhile Char.isDigit) else none
  | '.' :: [] => none
  | rest => some rest

/-- Take a time of day off a text. -/
def afterTime? : List Char → Option (List Char)
  | h :: i :: ':' :: m :: n :: ':' :: s :: t :: rest =>
    if isTwoDigits 0 23 h i && isTwoDigits 0 59 m n && isTwoDigits 0 60 s t then
      afterFraction? rest
    else none
  | _ => none

/-- Whether a text is an offset from universal time. -/
def isOffset : List Char → Bool
  | ['Z'] | ['z'] => true
  | [sign, h, i, ':', m, n] =>
    (sign == '+' || sign == '-') && isTwoDigits 0 23 h i && isTwoDigits 0 59 m n
  | _ => false

/-- Whether a text is a date without a time. -/
def isFullDate (text : List Char) : Bool := afterDate? text == some []

/-- Whether a text is a time of day. -/
def isTime (text : List Char) : Bool := afterTime? text == some []

/-- Whether a text is what may follow a date: nothing, or a time with an optional offset. -/
def isTimeOfDate : List Char → Bool
  | [] => true
  | delimiter :: rest =>
    [' ', 'T', 't'].contains delimiter &&
      (afterTime? rest).any fun rest => rest.isEmpty || isOffset rest

/-- Whether a text is a date, a time, or both. -/
def isDateTime (text : List Char) : Bool :=
  isTime text || (afterDate? text).any isTimeOfDate

/-- The value of a literal. -/
def ofLiteral? (text : List Char) : Option Value :=
  if text = "true".toList then some (.boolean true)
  else if text = "false".toList then some (.boolean false)
  else if isDateTime text then some (.dateTime (String.ofList text))
  else
    match integer? text with
    | some value => some (.integer value)
    | none => if isFloat text then some (.float (String.ofList text)) else none

end Delegation.Toml
