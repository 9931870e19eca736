import DocPipeline.Log.Notice
import DocPipeline.Pipeline.Basic

/-!
# Setting up pipelines

A configuration becomes a pipeline in three steps: there have to be stages, each stage is made by
the constructor of its type, in order, and the merge rules are read. A stage gets the connection of
the pipeline, whatever its own configuration says. The first fault ends the work; what was warned
about until then remains on record, and so do the configurations that constructors were given.

## Main definitions

* `Setup.addStages`: the stages of a configuration, one after the other.
* `Pipeline.setUp`: the pipeline of a configuration.
-/

namespace DocPipeline

/-- The configuration of a stage with the connection of its pipeline. -/
def PipelineConfig.bind (config : PipelineConfig) (declared : StageConfig) : StageConfig :=
  { declared with
    connectionName := some config.connectionName
    transacted := some config.transacted }

/-- A pipeline that is being set up. -/
structure Setup where
  /-- What was warned about, in order. -/
  notices : List Notice := []
  /-- The configurations that constructors were given, in order. -/
  constructed : List StageConfig := []
  stages : List BoundStage := []
  /-- The last position that writes a slot, for each slot that is written. -/
  outputs : NameMap Nat := .empty

namespace Setup

/-- The notice that a stage asks for a connection which it does not get. -/
def overridden? (config : PipelineConfig) (declared : StageConfig) : Option Notice :=
  match declared.connectionName with
  | some own =>
    if own = config.connectionName then none
    else some (.connectionOverridden declared.name own config.connectionName)
  | none => none

/-- The notice that the next stage writes a slot which an earlier one writes too. -/
def rewritten? (setup : Setup) (pipeline slot : String) : Option Notice :=
  (setup.outputs.get? slot).map fun previous =>
    .slotRewritten pipeline slot previous setup.stages.length

/-- One more stage at the end. A slot without a name is not written. -/
def place (setup : Setup) (pipeline : String) (bound : BoundStage) : Setup :=
  let slot := bound.config.outputSlot
  { setup with
    notices := setup.notices ++ (setup.rewritten? pipeline slot).toList
    stages := setup.stages ++ [bound]
    outputs :=
      if slot = "" then setup.outputs else setup.outputs.insert slot setup.stages.length }

/-- Makes one more stage. -/
def addStage (registry : StageRegistry) (config : PipelineConfig) (setup : Setup)
    (declared : StageConfig) : Setup × Except ConfigurationError Unit :=
  let bound := config.bind declared
  let noted := { setup with
    notices := setup.notices ++ (overridden? config declared).toList
    constructed :=
      if registry.contains bound.type then setup.constructed ++ [bound] else setup.constructed }
  match registry.create bound with
  | .ok stage => (noted.place config.name ⟨bound, stage⟩, .ok ())
  | .error error => (noted, .error error)

/-- Makes the stages of a list until one cannot be made. -/
def addStages (registry : StageRegistry) (config : PipelineConfig) (setup : Setup) :
    List StageConfig → Setup × Except ConfigurationError Unit
  | [] => (setup, .ok ())
  | declared :: rest =>
    match setup.addStage registry config declared with
    | (setup, .ok ()) => addStages registry config setup rest
    | failed => failed

end Setup

/-- How setting up a pipeline ended: the last state, and the pipeline unless there was a fault. -/
structure SetupResult where
  state : Setup
  outcome : Except ConfigurationError Pipeline

/-- The pipeline of a configuration. -/
def Pipeline.setUp (registry : StageRegistry) (config : PipelineConfig) : SetupResult :=
  if config.stages.isEmpty then ⟨{}, .error (.noStages config.name)⟩
  else
    match Setup.addStages registry config {} config.stages with
    | (setup, .error error) => ⟨setup, .error error⟩
    | (setup, .ok ()) =>
      ⟨setup, (MergePlan.compile config.merges).map fun mergePlan =>
        { config, stages := setup.stages, outputs := setup.outputs, mergePlan }⟩

end DocPipeline
