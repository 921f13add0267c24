import Delegation.CommandLine.Settings

/-!
# Command-line arguments

How the program reads its arguments; the command itself takes settings and does not care where they
come from.  The arguments are read from left to right, and the first thing that decides the outcome
counts: an error, or a question for help or the version.

## Main Definitions

* `Invocation` — what the arguments ask for.
* `Invocation.ofArguments` — read the arguments.
-/

namespace Delegation.CommandLine

/-- What the arguments ask for. -/
inductive Invocation
  /-- The arguments make no sense. -/
  | misuse
  | help
  | version
  | generate (settings : Settings)
deriving DecidableEq, Repr, Inhabited

/-- A number between 0 and the largest one of 32 bits, in decimal digits; a plus may stand before
them, and a minus before a zero. -/
def readRelease (text : String) : Option Nat :=
  let (digits, negative) := match text.toList with
    | '+' :: rest => (rest, false)
    | '-' :: rest => (rest, true)
    | digits => (digits, false)
  let value := digits.foldl (fun value c => value * 10 + (c.toNat - '0'.toNat)) 0
  if digits.isEmpty || !digits.all Char.isDigit || value ≥ UInt32.size || (negative && value ≠ 0) then
    none
  else some value

/-- An option that takes a value. -/
inductive ValueOption
  | snapshot
  | out
  | release
deriving DecidableEq, Repr

/-- An option that stands alone. -/
inductive Flag
  | check
  | dryRun
  | model
  | noMarker
  | verbose
deriving DecidableEq, Repr

/-- The option with a name. -/
def ValueOption.ofName? : String → Option ValueOption
  | "snapshot" => some snapshot
  | "out" => some out
  | "release" => some release
  | _ => none

/-- The flag with a name. -/
def Flag.ofName? : String → Option Flag
  | "check" => some check
  | "dry-run" => some dryRun
  | "model" => some model
  | "no-generated-annotation" => some noMarker
  | "verbose" => some verbose
  | _ => none

namespace Settings

/-- Set a path, which must not be empty and not be set before. -/
def path? (old : Option String) (value : String) : Option String :=
  if old.isSome || value.isEmpty then none else some value

/-- Give an option its value, if it has none yet. -/
def give (settings : Settings) (value : String) : ValueOption → Option Settings
  | .snapshot => (path? settings.snapshot? value).map fun p => { settings with snapshot? := some p }
  | .out => (path? settings.out? value).map fun p => { settings with out? := some p }
  | .release =>
    if settings.release?.isSome then none
    else (readRelease value).map fun n => { settings with release? := some n }

/-- Raise a flag, if it is not raised yet. -/
def raise (settings : Settings) : Flag → Option Settings
  | .check => if settings.check then none else some { settings with check := true }
  | .dryRun => if settings.dryRun then none else some { settings with dryRun := true }
  | .model => if settings.model then none else some { settings with model := true }
  | .noMarker => if settings.noMarker then none else some { settings with noMarker := true }
  | .verbose => if settings.verbose then none else some { settings with verbose := true }

end Settings

/-- An argument by its outer form. -/
inductive Argument
  /-- `--`, after which there are no more options. -/
  | endOfOptions
  /-- `--name` or `--name=value` -/
  | long (name : String) (value? : Option String)
  /-- `-abc` -/
  | short (letters : List Char)
  /-- Anything else. -/
  | plain (text : String)
deriving DecidableEq, Repr

/-- The outer form of an argument. -/
def Argument.ofText (text : String) : Argument :=
  match text.toList with
  | ['-', '-'] => endOfOptions
  | '-' :: '-' :: rest =>
    match rest.dropWhile (· != '=') with
    | [] => long (String.ofList rest) none
    | _ :: value => long (String.ofList (rest.takeWhile (· != '='))) (some (String.ofList value))
  | '-' :: c :: rest => short (c :: rest)
  | _ => plain text

/-- Whether an argument can be the value of the option before it. -/
def Argument.isValue : Argument → Bool
  | plain _ => true
  | _ => false

/-- Go through letters behind a dash.  Either something decides the outcome, or the answer tells
whether output is to be verbose. -/
def readLetters (allowsVersion : Bool) (verbose : Bool) : List Char → Except Invocation Bool
  | [] => .ok verbose
  | 'v' :: rest => if verbose then .error .misuse else readLetters allowsVersion true rest
  | 'h' :: _ => .error .help
  | 'V' :: _ => .error (if allowsVersion then .version else .misuse)
  | _ :: _ => .error .misuse

/-- Read the arguments behind `generate`. -/
def readGenerate (settings : Settings) : List String → Invocation
  | [] => .generate settings
  | argument :: rest =>
    match Argument.ofText argument with
    | .endOfOptions => if rest.isEmpty then .generate settings else .misuse
    | .plain _ => .misuse
    | .short letters =>
      match readLetters false settings.verbose letters with
      | .ok verbose => readGenerate { settings with verbose } rest
      | .error invocation => invocation
    | .long "help" none => .help
    | .long name value? =>
      match Flag.ofName? name, ValueOption.ofName? name with
      | some flag, _ =>
        match value?, settings.raise flag with
        | none, some settings => readGenerate settings rest
        | _, _ => .misuse
      | none, some option =>
        match value?, rest with
        | some value, rest =>
          match settings.give value option with
          | some settings => readGenerate settings rest
          | none => .misuse
        | none, value :: rest =>
          if (Argument.ofText value).isValue then
            match settings.give value option with
            | some settings => readGenerate settings rest
            | none => .misuse
          else .misuse
        | none, [] => .misuse
      | none, none => .misuse

/-- Read the arguments behind `help`: the name of a command, or nothing. -/
def readHelp : List String → Invocation
  | [] | ["generate"] | ["help"] => .help
  | _ => .misuse

/-- Read the arguments before the command, and the command. -/
def readCommand (verbose : Bool) : List String → Invocation
  | [] => .misuse
  | argument :: rest =>
    match Argument.ofText argument with
    | .plain "generate" => readGenerate {} rest
    | .plain "help" => readHelp rest
    | .plain _ | .endOfOptions => .misuse
    | .short letters =>
      match readLetters true verbose letters with
      | .ok verbose => readCommand verbose rest
      | .error invocation => invocation
    | .long "verbose" none => if verbose then .misuse else readCommand true rest
    | .long "help" none => .help
    | .long "version" none => .version
    | .long _ _ => .misuse

/-- What the arguments ask for. -/
def Invocation.ofArguments (arguments : List String) : Invocation := readCommand false arguments

end Delegation.CommandLine
