import DocPipeline.Merge.Plan
import DocPipeline.Stage.Registry
import DocPipeline.Variables.Resolution

/-!
# Pipelines

A pipeline that is ready to run: its configuration, its stages with the configurations that they
were made from, the positions that write each slot last, and its merge rules with their paths read.
-/

namespace DocPipeline

/-- A stage and the configuration that it was made from. -/
structure BoundStage where
  config : StageConfig
  stage : Stage

/-- A pipeline that is ready to run. -/
structure Pipeline where
  config : PipelineConfig
  stages : List BoundStage
  /-- The last position that writes a slot, for each slot that is written. -/
  outputs : NameMap Nat
  mergePlan : Option MergePlan
  /-- How the variables of runs are resolved. -/
  expander : Expander := .placeholders

namespace Pipeline

/-- The name of a pipeline. -/
def name (pipeline : Pipeline) : String := pipeline.config.name

/-- The names of the stages, in order. -/
def stageNames (pipeline : Pipeline) : List String := pipeline.stages.map (·.config.name)

/-- The last position that writes a slot. -/
def outputIndex? (pipeline : Pipeline) (slot : String) : Option Nat := pipeline.outputs.get? slot

/-- Whether the payload of a report is handed back. The last stage that writes the output decides;
if there is none, it is. -/
def returnsData (pipeline : Pipeline) : Bool :=
  match (pipeline.outputIndex? pipeline.config.outputSlot).bind (pipeline.stages[·]?) with
  | some bound => bound.config.returnData
  | none => true

/-- The stages that are told when a pipeline is taken down, by identity: one for each position. -/
def destroyed (pipeline : Pipeline) : List Nat := pipeline.stages.map (·.stage.identity)

end Pipeline

end DocPipeline
