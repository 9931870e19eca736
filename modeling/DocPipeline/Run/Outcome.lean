import DocPipeline.Run.Turn
import DocPipeline.RunOutput

/-!
# Outcomes

What a run hands back when all stages have had their turns: nothing if it only writes, otherwise the
result in the output slot. Merge rules put a document in its place in reading and executing runs,
and in executing runs the statistics may come from elsewhere.

## Main definitions

* `Run.outputOf`: the result in the output slot.
* `Run.report`: the result of an executing run.
* `Run.conclude`: what a run hands back.
-/

namespace DocPipeline

namespace Run

/-- The result in the output slot; nothing, with a warning, if nobody put one there. -/
def outputOf (run : Run) (store : SlotStore) : Program StageResult := do
  match store.get? run.config.outputSlot with
  | some result => return result
  | none =>
    Program.ask (.warn (.outputMissing run.config.outputSlot))
    return .nothing

/-- A result with the statistics that the configuration asks for: those of all turns together, or
those of another slot. -/
def withStatistics (run : Run) (progress : Progress) (output : StageResult) :
    Program StageResult := do
  match run.config.statsSlot with
  | none => return output
  | some .all =>
    let totals := StageResult.sumAll progress.results
    return { output with counters := totals.counters, discardCauses := totals.discardCauses }
  | some (.slot slot) =>
    if slot = run.config.outputSlot then return output
    match progress.store.get? slot with
    | some source => return output.withStatistics source
    | none =>
      Program.ask (.warn (.statisticsMissing slot))
      return output

/-- A result with the merged document as payload, if there are merge rules. -/
def withMerged (run : Run) (store : SlotStore) (output : StageResult) : Attempt StageResult :=
  match run.pipeline.mergePlan with
  | none => return output
  | some plan => do return output.withPayload (← merged plan store)

/-- The result of an executing run. -/
def report (run : Run) (progress : Progress) : Attempt StageResult := do
  let output ← run.outputOf progress.store
  let output ← run.withStatistics progress output
  let output ← run.withMerged progress.store output
  return if run.pipeline.returnsData then output else output.withoutPayload

/-- What a run hands back. -/
def conclude (run : Run) (progress : Progress) : Attempt RunOutput := do
  match run.mode with
  | .push => return .nothing
  | .pull =>
    match run.pipeline.mergePlan with
    | some plan => return .payload (← merged plan progress.store)
    | none => return .payload (← run.outputOf progress.store).payload
  | .call => return .payload (← run.outputOf progress.store).payload
  | .execute => return .result (← run.report progress)

end Run

end DocPipeline
