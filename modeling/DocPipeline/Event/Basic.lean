import DocPipeline.Event.Attributes

/-!
# Events

What happens in a run, for those who watch. A run starts, each stage starts and completes, and in
the end the run has completed, was cancelled or failed.

Clocks do not belong to a run. An event says what happened, and the times are put in when it is
written down.

## Main definitions

* `Event`, `Event.type`: what happened, and under which name.
* `Event.data`: an event written down at a time.
-/

namespace DocPipeline

/-- A moment in a run. -/
inductive RunMoment where
  | started
  | completed
  | cancelled (error : PipelineError)
  | failed (error : PipelineError)
deriving DecidableEq

/-- A moment in the work of a stage. -/
inductive StageMoment where
  | started
  /-- The stage has done its work, and this is what it counted. -/
  | completed (counters : Counters)
deriving DecidableEq, Repr

/-- Something that happens in a run, with what is known about the run or the stage from the
start. -/
inductive Event where
  | run (attributes : RunAttributes) (moment : RunMoment)
  | stage (attributes : StageAttributes) (moment : StageMoment)
deriving DecidableEq

/-- The times that an event is written down with. -/
structure Stamp where
  timestamp : String
  /-- When the run started. -/
  startedAt : String
  /-- How many milliseconds have gone by since the run or the stage started. -/
  elapsed : Binary64
deriving DecidableEq, Repr

namespace Event

/-- The name of what happened. -/
def type : Event → String
  | .run _ .started => "pipeline.started"
  | .run _ .completed => "pipeline.completed"
  | .run _ (.cancelled _) => "pipeline.cancelled"
  | .run _ (.failed _) => "pipeline.failed"
  | .stage _ .started => "stage.started"
  | .stage _ (.completed _) => "stage.completed"

/-- What is known about a run at a moment. -/
def runAttributes (a : RunAttributes) (elapsed : Binary64) : RunMoment → RunAttributes
  | .started => a
  | .completed => { a with duration := some elapsed }
  | .cancelled error | .failed error =>
    { a with duration := some elapsed, error := some error.message }

/-- What is known about a stage at a moment. -/
def stageAttributes (a : StageAttributes) (elapsed : Binary64) : StageMoment → StageAttributes
  | .started => a
  | .completed counters => { a with counters := some counters, duration := some elapsed }

/-- An event written down. -/
def data (event : Event) (stamp : Stamp) : Json :=
  .obj (("timestamp", .str stamp.timestamp) ::
    match event with
    | .run a moment =>
      ("started_at", .str stamp.startedAt) :: (runAttributes a stamp.elapsed moment).data
    | .stage a moment => (stageAttributes a stamp.elapsed moment).data)

end Event

end DocPipeline
