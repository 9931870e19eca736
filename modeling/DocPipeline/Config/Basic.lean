import DocPipeline.Mode
import DocPipeline.Variables.Placeholder

/-!
# Configurations

How a pipeline and its stages are configured.

## Main definitions

* `StageConfig`, `MergeSpec`, `StatsSlot`, `PipelineConfig`.
-/

namespace DocPipeline

/-- The configuration of one stage. -/
structure StageConfig where
  name : String
  /-- The registered type that the stage is made by. -/
  type : String
  mode : ForcedMode := .natural
  /-- The transformation of what the stage takes or gives; none if blank. -/
  transformation : String := ""
  /-- The slot that the stage takes its input from. -/
  inputSlot : String := ""
  /-- The slot that the result of the stage goes into. -/
  outputSlot : String := ""
  /-- Whether the payload is handed back when the stage's slot is the output. -/
  returnData : Bool := true
  connectionName : Option String := none
  transacted : Option Bool := none
  /-- Whatever else the type of the stage wants to know. -/
  attributes : NameMap Json := .empty
deriving DecidableEq

/-- A rule that appends selected elements of a slot's document to the destination document. The
first rule of a pipeline only names the destination. -/
structure MergeSpec where
  source : String
  sourcePath : Option String := none
  destPath : Option String := none
deriving DecidableEq

/-- Where the statistics of a run come from. -/
inductive StatsSlot where
  /-- From all stages together. -/
  | all
  /-- From the result in one slot. -/
  | slot (name : String)
deriving DecidableEq

/-- The configuration of a pipeline. -/
structure PipelineConfig where
  name : String
  connectionName : String
  /-- Whether runs commit and roll back. -/
  transacted : Bool := false
  /-- Whether somebody else completes the transactions. -/
  xa : Bool := false
  stages : List StageConfig := []
  /-- The slot whose content is handed back. -/
  outputSlot : String := ""
  statsSlot : Option StatsSlot := none
  merges : List MergeSpec := []
  vars : Variables := .empty
  /-- Whether the variables of a run are resolved. -/
  resolving : Bool := false
  /-- Whether payloads are written to the log. -/
  dumping : Bool := false
deriving DecidableEq

namespace PipelineConfig

/-- Whether runs commit and roll back on their own account. -/
def managesCommit (config : PipelineConfig) : Bool := config.transacted && !config.xa

/-- A configuration with one more stage. -/
def withStage (config : PipelineConfig) (stage : StageConfig) : PipelineConfig :=
  { config with stages := config.stages ++ [stage] }

/-- A configuration with one more merge rule. -/
def withMerge (config : PipelineConfig) (spec : MergeSpec) : PipelineConfig :=
  { config with merges := config.merges ++ [spec] }

/-- A configuration with the value of one variable set. -/
def withVariable (config : PipelineConfig) (name value : String) : PipelineConfig :=
  { config with vars := config.vars.insert name value }

end PipelineConfig

end DocPipeline
