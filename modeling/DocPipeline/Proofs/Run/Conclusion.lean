import DocPipeline.Proofs.Run.Account

/-!
# The conclusion of a run

What a run hands back once all stages have had their turns, read off the progress alone. The only
thing that can go wrong there is a merge, and merges take place in reading and executing runs.

## Main definitions

* `Run.outputIn`, `Run.statisticsIn`, `Run.mergedIn`: the parts of what is handed back.
* `Run.mergeFailure`, `Run.outputFor`: how the conclusion fails, and what it gives otherwise.

## Main results

* `Run.conclude_value`: the conclusion carried out.
-/

namespace DocPipeline

namespace Run

open Attempt

variable (run : Run)

/-- The result in the output slot, or nothing. -/
def outputIn (store : SlotStore) : StageResult :=
  (store.get? run.config.outputSlot).getD .nothing

/-- A result with the statistics that the configuration asks for. -/
def statisticsIn (progress : Progress) (output : StageResult) : StageResult :=
  match run.config.statsSlot with
  | none => output
  | some .all =>
    let totals := StageResult.sumAll progress.results
    { output with counters := totals.counters, discardCauses := totals.discardCauses }
  | some (.slot slot) =>
    if slot = run.config.outputSlot then output
    else ((progress.store.get? slot).map output.withStatistics).getD output

/-- The merged document of a store, or why there is none, if there are merge rules. -/
def mergedIn (store : SlotStore) : Option (Except PipelineError Payload) :=
  run.pipeline.mergePlan.map fun plan => ((plan.apply store).map .document).mapError .merge

/-- A payload, or the merged document in its place. -/
def payloadIn (store : SlotStore) (payload : Payload) : Payload :=
  ((run.mergedIn store).bind Except.toOption).getD payload

/-- The result of an executing run. -/
def reportIn (progress : Progress) : StageResult :=
  let output := run.statisticsIn progress (run.outputIn progress.store)
  let output := output.withPayload (run.payloadIn progress.store output.payload)
  if run.pipeline.returnsData then output else output.withoutPayload

/-- Statistics do not touch the payload. -/
theorem statisticsIn_payload (progress : Progress) (output : StageResult) :
    (run.statisticsIn progress output).payload = output.payload := by
  rw [statisticsIn]
  rcases run.config.statsSlot with _ | _ | slot
  · rfl
  · rfl
  · simp only
    split
    · rfl
    · cases progress.store.get? slot <;> rfl

/-- The payload of a report, if it is handed back. -/
theorem reportIn_payload (progress : Progress) :
    (run.reportIn progress).payload =
      if run.pipeline.returnsData then
        run.payloadIn progress.store (run.outputIn progress.store).payload
      else .empty := by
  rw [reportIn, statisticsIn_payload]
  cases run.pipeline.returnsData <;> rfl

/-- The rest of a report are the statistics. -/
theorem reportIn_statistics (progress : Progress) :
    let statistics := run.statisticsIn progress (run.outputIn progress.store)
    (run.reportIn progress).counters = statistics.counters ∧
      (run.reportIn progress).discardCauses = statistics.discardCauses := by
  rw [reportIn]
  cases run.pipeline.returnsData <;> exact ⟨rfl, rfl⟩

/-- How the conclusion of a run fails, if it does. -/
def mergeFailure (store : SlotStore) : Option PipelineError :=
  match run.mode with
  | .pull | .execute => (run.mergedIn store).bind PipelineError.of?
  | .push | .call => none

/-- What a run hands back if its conclusion does not fail. -/
def outputFor (progress : Progress) : RunOutput :=
  match run.mode with
  | .push => .nothing
  | .pull => .payload (run.payloadIn progress.store (run.outputIn progress.store).payload)
  | .call => .payload (run.outputIn progress.store).payload
  | .execute => .result (run.reportIn progress)

/-! ### The conclusion carried out -/

variable (answer : Program.Answerer) (tokens : TokenPool)

theorem outputOf_value (store : SlotStore) :
    ((run.outputOf store).exec answer tokens).value = run.outputIn store := by
  rw [outputOf, outputIn]
  cases store.get? run.config.outputSlot with
  | none => rfl
  | some result => rfl

theorem withStatistics_value (progress : Progress) (output : StageResult) :
    ((run.withStatistics progress output).exec answer tokens).value =
      run.statisticsIn progress output := by
  rw [withStatistics, statisticsIn]
  rcases run.config.statsSlot with _ | _ | slot
  · rfl
  · rfl
  · by_cases same : slot = run.config.outputSlot
    · simp [same]
    · cases found : progress.store.get? slot with
      | none => simp [same, found]
      | some source => simp [same, found]

/-- A merge carried out. -/
theorem merged_exec (plan : MergePlan) (store : SlotStore) :
    exec answer tokens (merged plan store) =
      ⟨((plan.apply store).map .document).mapError .merge, tokens, []⟩ := by
  rw [merged]
  cases plan.apply store with
  | ok root => rfl
  | error error => rfl

/-- The merged document in place of a payload, unless the merge fails. -/
theorem withMerged_value (store : SlotStore) (output : StageResult) :
    (exec answer tokens (run.withMerged store output)).value =
      ((run.mergedIn store).bind PipelineError.of?).elim
        (.ok (output.withPayload (run.payloadIn store output.payload))) .error := by
  rw [withMerged, payloadIn, mergedIn]
  cases run.pipeline.mergePlan with
  | none => rfl
  | some plan =>
      have merges := merged_exec answer tokens plan store
      simp only [Option.map_some, Option.bind_some]
      cases applied : plan.apply store with
      | ok root =>
          rw [applied] at merges
          rw [exec_then_ok _ merges]
          rfl
      | error error =>
          rw [applied] at merges
          rw [exec_then_error _ merges]
          rfl

/-- The result of an executing run, unless its merge fails. -/
theorem report_value (progress : Progress) :
    (exec answer tokens (run.report progress)).value =
      ((run.mergedIn progress.store).bind PipelineError.of?).elim (.ok (run.reportIn progress))
        .error := by
  rw [report, exec_then_ok _ (exec_lift _ _ _), outputOf_value,
    exec_then_ok _ (exec_lift _ _ _), withStatistics_value]
  generalize Program.Execution.tokens _ = between
  have merged := run.withMerged_value answer between progress.store
    (run.statisticsIn progress (run.outputIn progress.store))
  rcases done : exec answer between (run.withMerged progress.store
    (run.statisticsIn progress (run.outputIn progress.store))) with ⟨outcome, rest, requests⟩
  rw [done] at merged
  obtain rfl : outcome = _ := merged
  cases fails : (run.mergedIn progress.store).bind PipelineError.of? with
  | none =>
      rw [fails] at done
      rw [exec_then_ok _ done]
      rfl
  | some error =>
      rw [fails] at done
      rw [exec_then_error _ done]
      rfl

/-- **The conclusion of a run** gives the output that can be read off the progress, unless its merge
fails. -/
theorem conclude_value (progress : Progress) :
    (exec answer tokens (run.conclude progress)).value =
      (run.mergeFailure progress.store).elim (.ok (run.outputFor progress)) .error := by
  rw [conclude, mergeFailure, outputFor]
  cases run.mode with
  | push => rfl
  | call =>
      simp only
      rw [exec_then_ok _ (exec_lift _ _ _), outputOf_value]
      rfl
  | pull =>
      rw [payloadIn, mergedIn]
      cases run.pipeline.mergePlan with
      | none =>
          simp only
          rw [exec_then_ok _ (exec_lift _ _ _), outputOf_value]
          rfl
      | some plan =>
          have merges := merged_exec answer tokens plan progress.store
          simp only [Option.map_some, Option.bind_some]
          cases applied : plan.apply progress.store with
          | ok root =>
              rw [applied] at merges
              rw [exec_then_ok _ merges]
              rfl
          | error error =>
              rw [applied] at merges
              rw [exec_then_error _ merges]
              rfl
  | execute =>
      have reported := run.report_value answer tokens progress
      rcases done : exec answer tokens (run.report progress) with ⟨outcome, rest, requests⟩
      rw [done] at reported
      obtain rfl : outcome = _ := reported
      simp only
      cases fails : (run.mergedIn progress.store).bind PipelineError.of? with
      | none =>
          rw [fails] at done
          rw [exec_then_ok _ done]
          rfl
      | some error =>
          rw [fails] at done
          rw [exec_then_error _ done]
          rfl

end Run

end DocPipeline
