import Delegation.Symbol.Declaration

/-!
# Events

What is logged while a compilation runs, besides the diagnostics that it hands to its caller.  How an
event becomes a line of a log, with the time and whatever else stands there, is up to the logger.

## Main Definitions

* `Level`, `Event` — what is logged, and how much it matters.
* `Event.message`, `Event.fields` — the words for an event, and its data.
* `Event.isShown` — whether an event gets to a log.
-/

namespace Delegation

open Java

/-- How much an event matters. -/
inductive Level
  | error
  | warning
  | information
deriving DecidableEq, Repr, Inhabited

/-- The text of a level. -/
def Level.text : Level → String
  | error => "ERROR"
  | warning => "WARN"
  | information => "INFO"

/-- Something that is logged. -/
inductive Event
  /-- A method of a base class can be reached through several delegates. -/
  | shared (type : ClassName) (signature : Signature)
  /-- The base class of a class could not be generated. -/
  | failed (type : ClassName) (trace : String)
  /-- The base class of a class was generated. -/
  | generated (type base : ClassName)
  /-- A class was still put off when no more types could appear. -/
  | leftOver (type : ClassName)
  /-- A compilation came to its end. -/
  | finished (rounds classes : Nat)
  /-- A file got the source of a base class. -/
  | wrote (path : String)
deriving DecidableEq, Repr, Inhabited

namespace Event

/-- How much an event matters. -/
def level : Event → Level
  | failed .. => .error
  | shared .. | leftOver _ => .warning
  | generated .. | finished .. | wrote _ => .information

/-- The words for an event. -/
def message : Event → String
  | shared .. => "method reachable through several delegates"
  | failed .. => "failed to generate delegate class"
  | generated .. => "generated delegate class"
  | leftOver _ => "type still deferred after final pass"
  | finished .. => "compilation finished"
  | wrote _ => "wrote generated source"

/-- The data of an event, each with its name. -/
def fields : Event → List (String × String)
  | shared type signature => [("ty", type.qualified), ("signature", signature.text)]
  | failed type trace => [("ty", type.qualified), ("error", trace)]
  | generated type base => [("ty", type.qualified), ("generated", base.qualified)]
  | leftOver type => [("ty", type.qualified)]
  | finished rounds classes =>
    [("rounds", toString rounds), ("generated", toString classes)]
  | wrote path => [("path", path)]

/-- An event on a line, without the time. -/
def line (event : Event) : String :=
  event.level.text ++ " " ++ event.message ++
    String.join (event.fields.map fun (name, value) => " " ++ name ++ "=" ++ value) ++ "\n"

/-- Whether an event gets to a log.  What is mere information does so only if the log is to be
verbose.  This holds as long as the environment does not ask for another log. -/
def isShown (verbose : Bool) (event : Event) : Bool := verbose || event.level ≠ .information

end Event

end Delegation
