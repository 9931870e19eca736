import DocPipeline.Pipeline.Basic
import DocPipeline.Run.Surroundings

/-!
# Tallies of stages

What happened to stages over time: their calls, how often they cleaned up, and how often they were
destroyed with a pipeline. A stage that stands at several positions, or in several pipelines, is one
stage here.
-/

namespace DocPipeline

/-- What happened to stages, by identity and in order. -/
structure StageTally where
  calls : List (Nat × StageCall) := []
  cleanups : List Nat := []
  destroys : List Nat := []

/-- The identity of the stage at a position. -/
def Pipeline.identityAt? (pipeline : Pipeline) (position : Nat) : Option Nat :=
  pipeline.stages[position]?.map (·.stage.identity)

namespace StageTally

/-- The call of a stage that a request is. -/
def call? (pipeline : Pipeline) (request : Request) : Option (Nat × StageCall) := do
  let (position, call) ← request.stageCall?
  some (← pipeline.identityAt? position, call)

/-- A tally after the requests of runs of a pipeline. -/
def afterRuns (tally : StageTally) (pipeline : Pipeline) (trace : List Request) : StageTally :=
  { tally with
    calls := tally.calls ++ trace.filterMap (call? pipeline)
    cleanups := tally.cleanups ++ trace.filterMap (·.cleanUp?.bind pipeline.identityAt?) }

/-- A tally after pipelines were taken down. -/
def afterDestroying (tally : StageTally) (pipelines : List Pipeline) : StageTally :=
  { tally with destroys := tally.destroys ++ pipelines.flatMap Pipeline.destroyed }

/-- The calls of one stage. -/
def callsOf (tally : StageTally) (identity : Nat) : List StageCall :=
  (tally.calls.filter (·.1 = identity)).map (·.2)

/-- How often one stage cleaned up. -/
def cleanupsOf (tally : StageTally) (identity : Nat) : Nat := tally.cleanups.count identity

/-- How often one stage was destroyed. -/
def destroysOf (tally : StageTally) (identity : Nat) : Nat := tally.destroys.count identity

end StageTally

end DocPipeline
