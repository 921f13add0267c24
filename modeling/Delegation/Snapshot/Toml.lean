import Delegation.Snapshot
import Delegation.Toml.Reader
import Delegation.Toml.Record

/-!
# Snapshots in TOML

The schema of snapshot files.  Every record names its fields and their order.

## Main Definitions

* `SnapshotDefinition.ofValue?` — the schema of a snapshot.
* `Options.ofToml?`, `Request.ofToml?` — read a whole text.
* `Snapshot.ofText`, `Snapshot.ofToml` — the snapshot of a file, with any reader and with the one of
  this library.
-/

namespace Delegation

open Toml

/-- Options as a record. -/
def Options.ofValue? (value : Value) : Option Options := do
  let record ← value.record?
  let release ← record.withDefault 0 "release" Options.standard.release (Value.natural? 32)
  let markGenerated ←
    record.withDefault 1 "generated_annotation" Options.standard.markGenerated Value.flag?
  let maxRounds ← record.withDefault 2 "max_rounds" Options.standard.maxRounds (Value.natural? 64)
  return { release, markGenerated, maxRounds }

/-- An entry of the list of delegates as a record. -/
def DelegateEntry.ofValue? (value : Value) : Option DelegateEntry := do
  let record ← value.record?
  let interface ← record.required 0 "interface" Value.text?
  let fieldName? ← record.optional 1 "name" Value.text?
  return { interface, fieldName? }

/-- A request as a record. -/
def Request.ofValue? (value : Value) : Option Request := do
  let record ← value.record?
  let delegates ← record.list 0 "delegates" DelegateEntry.ofValue?
  let extend? ← record.optional 1 "extend" Value.text?
  return { delegates, extend? }

/-- A parameter as a record. -/
def ParameterDefinition.ofValue? (value : Value) : Option ParameterDefinition := do
  let record ← value.record?
  let name ← record.required 0 "name" Value.text?
  let type ← record.required 1 "type" Value.text?
  return { name, type }

/-- A modifier by its keyword. -/
def Modifier.ofValue? (value : Value) : Option Modifier := value.word? Modifier.ofWord?

/-- A method as a record. -/
def MethodDefinition.ofValue? (value : Value) : Option MethodDefinition := do
  let record ← value.record?
  let name ← record.required 0 "name" Value.text?
  let returns ← record.withDefault 1 "returns" "void" Value.text?
  let parameters ← record.list 2 "parameters" ParameterDefinition.ofValue?
  let varargs ← record.withDefault 3 "varargs" false Value.flag?
  let throws ← record.list 4 "throws" Value.text?
  let modifiers ← record.list 5 "modifiers" Modifier.ofValue?
  return { name, returns, parameters, varargs, throws, modifiers }

/-- A constructor as a record. -/
def ConstructorDefinition.ofValue? (value : Value) : Option ConstructorDefinition := do
  let record ← value.record?
  let parameters ← record.list 0 "parameters" ParameterDefinition.ofValue?
  let varargs ← record.withDefault 1 "varargs" false Value.flag?
  let throws ← record.list 2 "throws" Value.text?
  let modifiers ← record.list 3 "modifiers" Modifier.ofValue?
  return { parameters, varargs, throws, modifiers }

/-- A type as a record. -/
def TypeDefinition.ofValue? (value : Value) : Option TypeDefinition := do
  let record ← value.record?
  let name ← record.required 0 "name" Value.text?
  let kind ← record.required 1 "kind" (Value.word? TypeKind.ofWord?)
  let modifiers ← record.list 2 "modifiers" Modifier.ofValue?
  let extends? ← record.optional 3 "extends" Value.text?
  let interfaces ← record.list 4 "interfaces" Value.text?
  let methods ← record.list 5 "methods" MethodDefinition.ofValue?
  let constructors ← record.list 6 "constructors" ConstructorDefinition.ofValue?
  let round ← record.withDefault 7 "round" 1 (Value.natural? 64)
  let request? ← record.optional 8 "auto_delegate" Request.ofValue?
  return {
    name, kind, modifiers, extends?, interfaces, methods, constructors, round, request? }

/-- A snapshot as a record. -/
def SnapshotDefinition.ofValue? (value : Value) : Option SnapshotDefinition := do
  let record ← value.record?
  let options ← record.withDefault 0 "options" Options.standard Options.ofValue?
  let types ← record.list 1 "types" TypeDefinition.ofValue?
  return { options, types }

/-- Read options from a text. -/
def Options.ofToml? (text : String) : Option Options := (parse? text).bind Options.ofValue?

/-- Read a request from a text. -/
def Request.ofToml? (text : String) : Option Request := (parse? text).bind Request.ofValue?

/-- The snapshot that a text defines, in round 1, if this is how the text is read. -/
def Snapshot.ofText (read? : String → Option Value) (text : String) : Except Fault Snapshot :=
  match (read? text).bind SnapshotDefinition.ofValue? with
  | some definition => Snapshot.ofDefinition definition
  | none => .error .unreadable

/-- The snapshot that a text defines, in round 1. -/
def Snapshot.ofToml (text : String) : Except Fault Snapshot := Snapshot.ofText parse? text

end Delegation
