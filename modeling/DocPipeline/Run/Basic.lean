import DocPipeline.Pipeline.Basic
import DocPipeline.Run.Transaction

/-!
# Runs

What is known about a run before it begins, and the requests that its parts have in common.
-/

namespace DocPipeline

/-- A run that is to be carried out. -/
structure Run where
  pipeline : Pipeline
  /-- The identity of the run. -/
  id : String
  mode : ExecutionMode
  /-- What the caller brings. -/
  input : Payload := .empty
  /-- The variables of the caller. -/
  params : Variables := .empty
  /-- The number of the token that the run looks at. -/
  token : Nat

namespace Run

/-- The configuration of the pipeline. -/
abbrev config (run : Run) : PipelineConfig := run.pipeline.config

/-- What events say about a run. -/
def attributes (run : Run) : RunAttributes where
  pipeline := run.config.name
  runId := run.id
  mode := run.mode
  connection := run.config.connectionName
  managesCommit := run.config.managesCommit
  stageCount := run.pipeline.stages.length

/-- Tells those who watch about a moment of the run. -/
def tell (run : Run) (moment : RunMoment) : Program Unit :=
  Program.ask (.emit (.run run.attributes moment))

/-- Records a payload if the pipeline wants payloads recorded. -/
def record (run : Run) (checkpoint : Checkpoint) (stage : Option String) (payload : Payload) :
    Program Unit :=
  if run.config.dumping then
    Program.ask (.dump { pipeline := run.config.name, checkpoint, stage, payload })
  else return ()

/-- The document that the merge rules make of stored results, as a payload. -/
def merged (plan : MergePlan) (store : SlotStore) : Attempt Payload :=
  match plan.apply store with
  | .ok root => return .document root
  | .error error => throw (.merge error)

end Run

end DocPipeline
