import DocPipeline.Failure

/-!
# Notices

What a pipeline warns about without failing for it, as causes. A notice is written as a message and
named fields.
-/

namespace DocPipeline

/-- Something to be warned about. -/
inductive Notice where
  /-- A stage asked for another connection than it gets. -/
  | connectionOverridden (stage declared pipelineConnection : String)
  /-- Two stages write the same slot. -/
  | slotRewritten (pipeline slot : String) (previous index : Nat)
  /-- Nobody wrote the slot that a run hands back. -/
  | outputMissing (slot : String)
  /-- Nobody wrote the slot that statistics are taken from. -/
  | statisticsMissing (slot : String)
  /-- There was no connection left to roll back. -/
  | rollbackSkipped (connection : String)
  /-- A transaction could not be rolled back. -/
  | rollbackFailed (connection : String) (error : DatabaseError)
  /-- A connection could not be handed back. -/
  | releaseFailed (connection : String) (error : DatabaseError)
  /-- A stage failed to clean up. -/
  | cleanupFailed (stage : String) (error : PipelineError)
  /-- A run was cancelled. -/
  | runCancelled (error : PipelineError)
  /-- A run failed. -/
  | runFailed (error : PipelineError)
deriving DecidableEq

namespace Notice

/-- What a notice says. -/
def message : Notice → String
  | .connectionOverridden .. => "Stage connection overridden by the pipeline connection"
  | .slotRewritten .. => "Output slot written by more than one stage; the later stage wins"
  | .outputMissing _ => "Output slot is empty after the run"
  | .statisticsMissing _ => "Statistics slot is empty; keeping output counters"
  | .rollbackSkipped _ => "Rollback skipped: connection already released"
  | .rollbackFailed .. => "Rollback failed"
  | .releaseFailed .. => "Connection release failed"
  | .cleanupFailed .. => "Stage cleanup failed"
  | .runCancelled _ => "Pipeline run cancelled"
  | .runFailed _ => "Pipeline run failed"

/-- What a notice is about, by name. -/
def fields : Notice → List (String × String)
  | .connectionOverridden stage declared pipelineConnection =>
    [("stage", stage), ("declared", declared), ("pipeline_connection", pipelineConnection)]
  | .slotRewritten pipeline slot previous index =>
    [("pipeline", pipeline), ("slot", slot), ("previous", toString previous),
      ("index", toString index)]
  | .outputMissing slot => [("slot", slot)]
  | .statisticsMissing slot => [("slot", slot)]
  | .rollbackSkipped connection => [("connection", connection)]
  | .rollbackFailed connection error => [("connection", connection), ("error", error.message)]
  | .releaseFailed connection error => [("connection", connection), ("error", error.message)]
  | .cleanupFailed stage error => [("stage", stage), ("error", error.message)]
  | .runCancelled error => [("reason", error.message)]
  | .runFailed error => [("error", error.message), ("kind", error.kind.token)]

/-- A notice as a value. -/
def toJson (notice : Notice) : Json :=
  .obj (("message", .str notice.message) ::
    notice.fields.map fun (name, value) => (name, .str value))

end Notice

end DocPipeline
