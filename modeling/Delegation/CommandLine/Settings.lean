/-!
# Settings

What can be set for a generation, and what the generation does with its result.

## Main Definitions

* `Settings` — what has been set, with the values of what has not.
* `Mode` — what is done with the result.
-/

namespace Delegation.CommandLine

/-- What has been set for a generation. -/
structure Settings where
  snapshot? : Option String := none
  out? : Option String := none
  release? : Option Nat := none
  check : Bool := false
  dryRun : Bool := false
  model : Bool := false
  noMarker : Bool := false
  verbose : Bool := false
deriving DecidableEq, Repr, Inhabited

/-- What a generation does with its result. -/
inductive Mode
  /-- Count the classes. -/
  | check
  /-- Print the classes as JSON. -/
  | model
  /-- Print the sources. -/
  | print
  /-- Write the sources to files. -/
  | write
deriving DecidableEq, Repr, Inhabited

namespace Settings

/-- The path of the snapshot file. -/
def snapshot (settings : Settings) : String := settings.snapshot?.getD "autodelegate.toml"

/-- The path of the source root. -/
def out (settings : Settings) : String :=
  settings.out?.getD "build/generated/sources/autodelegate"

/-- The mode asked for; checking goes before the other modes, and JSON before sources. -/
def mode (settings : Settings) : Mode :=
  if settings.check then .check
  else if settings.model then .model
  else if settings.dryRun then .print
  else .write

end Settings

end Delegation.CommandLine
