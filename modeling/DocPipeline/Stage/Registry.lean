import DocPipeline.Config.Basic
import DocPipeline.Stage.Script
import DocPipeline.Text.Quoted

/-!
# Stage registries

Stages are made from their configurations by constructors, which are registered under the names of
types. A constructor may refuse a configuration.

## Main definitions

* `StageRegistry.register`, `StageRegistry.create`.
* `StageRegistry.ofScripts`: the constructors for trying pipelines out.
-/

namespace DocPipeline

/-- A way to make stages. -/
abbrev StageConstructor := StageConfig → Except ConfigurationError Stage

/-- The constructors of stages by type. -/
structure StageRegistry where
  constructors : NameMap StageConstructor := .empty

namespace StageRegistry

/-- The registry without constructors. -/
def empty : StageRegistry := {}

/-- Registers the constructor of a type, in place of the one there. -/
def register (registry : StageRegistry) (type : String) (constructor : StageConstructor) :
    StageRegistry :=
  ⟨registry.constructors.insert type constructor⟩

/-- Whether a type has a constructor. -/
def contains (registry : StageRegistry) (type : String) : Bool :=
  registry.constructors.contains type

/-- The types that have a constructor, in order. -/
def types (registry : StageRegistry) : List String := registry.constructors.names

/-- The stage of a configuration. -/
def create (registry : StageRegistry) : StageConstructor := fun config =>
  match registry.constructors.get? config.type with
  | some constructor => constructor config
  | none => .error (.unknownStageType config.name config.type)

/-- A registry in a diagnostic line. -/
def diagnostic (registry : StageRegistry) : String :=
  let types := ", ".intercalate (registry.types.map Text.quoted)
  s!"StageRegistry \x7b types: [{types}] \x7d"

/-! ### Constructors -/

/-- An error that is a message and nothing else. -/
def refusal (message : String) : ConfigurationError := .stated message [] none

/-- Makes idle stages. -/
def idle (identity : Nat) : StageConstructor := fun config => .ok (.idle identity config.name)

/-- Makes stages that report their calls. -/
def probe (identity : Nat) : StageConstructor := fun config => .ok (.probe identity config.name)

/-- Makes idle stages of those configurations that name a table. -/
def strict (identity : Nat) : StageConstructor := fun config =>
  if config.attributes.contains "table" then .ok (.idle identity config.name)
  else .error (.stated "missing 'table' attribute" [config.name] none)

/-- Scripts by name, with identities counted from `first`; of two with one name the later
counts. -/
def scriptsByName (scripts : List StageScript) (first : Nat) : NameMap (StageScript × Nat) :=
  NameMap.ofList ((scripts.zipIdx first).map fun (script, identity) =>
    (script.name, script, identity))

/-- Makes the stage of the script that has the name of the configuration. -/
def scripted (scripts : List StageScript) (first token : Nat) : StageConstructor := fun config =>
  match (scriptsByName scripts first).get? config.name with
  | some (script, identity) => .ok (script.stage identity token)
  | none => .error (refusal s!"no scripted stage named '{config.name}'")

/-- Makes the stage of the script that has the name of the configuration, failing where the script
says so though the work is done. -/
def raising (scripts : List StageScript) (first token : Nat) : StageConstructor := fun config =>
  match (scriptsByName scripts first).get? config.name with
  | some (script, identity) => .ok (script.raisingStage identity token)
  | none => .error (refusal "no such stage")

/-- The constructors for trying pipelines out. The stages of scripts are numbered from `first` on,
and all other stages share the identity behind theirs. -/
def ofScripts (scripts : List StageScript) (first token : Nat) : StageRegistry :=
  let other := first + scripts.length
  ((((empty.register "scripted" (scripted scripts first token)).register
    "raising" (raising scripts first token)).register
    "noop" (idle other)).register
    "probe" (probe other)).register
    "strict" (strict other)

end StageRegistry

end DocPipeline
