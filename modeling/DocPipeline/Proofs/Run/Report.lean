import DocPipeline.Proofs.Run.FirstFailure
import DocPipeline.Proofs.Run.Payloads
import DocPipeline.Proofs.Stage.Statistics

/-!
# The report of an executing run

What an executing run hands back when nothing fails, told by the results of its stages alone: it
begins as the result of the last stage that writes the output. Its statistics may be those of all
stages together, or partly those of the last stage that writes another slot; its payload may be the
merged document, and is left out where the last stage that writes the output says so.

## Main definitions

* `Run.finalIn`, `Run.finalOutput`, `Run.finalStatistics`, `Run.FinalPayload`: the parts of a
  report.

## Main results

* `Run.executed_output_eq_report`: what an executing run hands back.
-/

namespace DocPipeline

/-! ### The parts of a report -/

namespace Run

section Parts

variable (run : Run) (results : List StageResult)

/-- The result in a slot at the end: that of the last stage that writes it. -/
def finalIn (slot : String) : Option StageResult :=
  (lastWriter? run.pipeline.slots slot).bind (results[·]?)

/-- What a report begins as: the result in the output slot, or nothing. -/
def finalOutput : StageResult := (run.finalIn results run.config.outputSlot).getD .nothing

/-- The counters of a report, and its causes: those of all stages together, or those of the output.
The counters of another slot that a stage writes take the place of those of the output, except for
the discards. -/
def finalStatistics : Counters × List DiscardCause :=
  let output := run.finalOutput results
  match run.config.statsSlot with
  | some .all =>
    (Counters.totals (results.map (·.counters)), results.flatMap (·.discardCauses))
  | some (.slot slot) =>
    match if slot = run.config.outputSlot then none else run.finalIn results slot with
    | some source =>
      ({ source.counters with discard := output.counters.discard }, output.discardCauses)
    | none => (output.counters, output.discardCauses)
  | none => (output.counters, output.discardCauses)

/-- The payload of a report, before it may be left out: the document that the merge rules make of
the results in their slots, if there are two of them at least, and otherwise the payload of the
output. -/
def FinalPayload (payload : Payload) : Prop :=
  if 2 ≤ run.config.merges.length then
    ∃ plan store root, MergePlan.compile run.config.merges = .ok (some plan) ∧
      (∀ slot, store.get? slot = run.finalIn results slot) ∧
      plan.apply store = .ok root ∧ payload = .document root
  else payload = (run.finalOutput results).payload

end Parts

/-! ### What is handed back -/

section HandedBack

variable {run : Run} {progress : Progress} {results : List StageResult}

/-- The progress at the end of a run shows the results of all stages, in order and in their slots.
-/
structure Ends (run : Run) (progress : Progress) (results : List StageResult) : Prop where
  inOrder : progress.results = results
  inSlots : ∀ slot, progress.store.get? slot = run.finalIn results slot

theorem Ends.outputIn_eq (ends : run.Ends progress results) :
    run.outputIn progress.store = run.finalOutput results := by
  rw [outputIn, ends.inSlots, finalOutput]

/-- The statistics of a report do not touch its payload. -/
theorem Ends.statisticsIn_eq (ends : run.Ends progress results) :
    run.statisticsIn progress (run.finalOutput results) =
      { payload := (run.finalOutput results).payload
        counters := (run.finalStatistics results).1
        discardCauses := (run.finalStatistics results).2 } := by
  rw [statisticsIn, finalStatistics]
  rcases run.config.statsSlot with _ | _ | slot
  · rfl
  · rw [ends.inOrder, StageResult.sumAll_eq]
  · by_cases same : slot = run.config.outputSlot
    · simp [same]
    · simp only [if_neg same, ends.inSlots]
      cases run.finalIn results slot with
      | none => rfl
      | some source => rfl

/-- The payload of a report is the merged document, unless there is nothing to merge. -/
theorem Ends.payloadIn_final (ends : run.Ends progress results) (setUp : run.pipeline.IsSetUp)
    (merges : (run.mergedIn progress.store).bind PipelineError.of? = none) :
    run.FinalPayload results (run.payloadIn progress.store (run.finalOutput results).payload) := by
  have compiles := setUp.compiles
  have many := MergePlan.compile_isSome compiles
  rw [mergedIn] at merges
  rw [FinalPayload, payloadIn, mergedIn]
  cases plans : run.pipeline.mergePlan with
  | none =>
      rw [plans] at many
      rw [if_neg fun two => by rw [decide_eq_true two] at many; cases many]
      rfl
  | some plan =>
      rw [plans] at many merges compiles
      rw [if_pos (of_decide_eq_true many.symm)]
      cases applied : plan.apply progress.store with
      | error error =>
          rw [Option.map_some, applied] at merges
          cases merges
      | ok root =>
          refine ⟨plan, progress.store, root, compiles, ends.inSlots, applied, ?_⟩
          simp only [Option.map_some, Option.bind_some, applied]
          rfl

/-- The parts of a report come together; the payload may be left out at last. -/
theorem Ends.reportIn_eq (ends : run.Ends progress results) :
    run.reportIn progress =
      { payload :=
          if run.pipeline.returnsData then
            run.payloadIn progress.store (run.finalOutput results).payload
          else .empty
        counters := (run.finalStatistics results).1
        discardCauses := (run.finalStatistics results).2 } := by
  rw [reportIn, ends.outputIn_eq, ends.statisticsIn_eq]
  cases run.pipeline.returnsData with
  | true => rfl
  | false => rfl

end HandedBack

variable (run : Run) (around : Surroundings) (tokens : TokenPool)

/-- The results of turns, in order. -/
theorem through_results (progress : Progress) (accounts : List Account) :
    (progress.through accounts).results = progress.results ++ accounts.map (·.result) := by
  induction accounts generalizing progress with
  | nil => simp
  | cons account rest ih => simp [ih, Progress.add]

/-- An executing run begins with nothing. -/
theorem beginning_of_execute (executes : run.mode = .execute) : run.beginning = {} := by
  rw [beginning, executes]

/-- A run that begins with nothing ends with the results of its turns. -/
theorem ends_of_beginning (begins : run.beginning = {}) :
    run.Ends (run.finished around tokens) ((run.turnAccounts around tokens).map (·.result)) := by
  have slots : (run.turnAccounts around tokens).map (·.stage.outputSlot) = run.pipeline.slots := by
    rw [turnAccounts, accounts, accountsFrom_slots, Pipeline.slots]
  rw [finished, begins]
  constructor
  · exact through_results _ _
  · intro slot
    rw [Progress.through_store, slots, finalIn]
    cases lastWriter? run.pipeline.slots slot with
    | none => rfl
    | some writer => exact (List.getElem?_map ..).symm

/-- An executing run ends with the results of its turns. -/
theorem finished_ends (executes : run.mode = .execute) :
    run.Ends (run.finished around tokens) ((run.turnAccounts around tokens).map (·.result)) :=
  run.ends_of_beginning around tokens (run.beginning_of_execute executes)

/-- In a run without a failure, every stage has its turn, none of them fails, and neither does the
merge. -/
theorem of_no_failure (succeeds : firstFailure (run.hurdles around tokens) = none) :
    run.resolved = .ok run.bindings ∧
      (∀ account ∈ run.turnAccounts around tokens, account.failure = none) ∧
      run.mergeFailure (run.finished around tokens).store = none := by
  simp only [hurdles, ending, firstFailure_append, firstFailure_cons, Option.or_eq_none_iff]
    at succeeds
  obtain ⟨⟨opens, turns⟩, merges, -⟩ := succeeds
  refine ⟨((run.firstFailure_opening_eq_none_iff around).mp opens).1, fun account mem => ?_, merges⟩
  rw [firstFailure, List.findSome?_eq_none_iff] at turns
  rw [Account.failure, firstFailure, List.findSome?_eq_none_iff]
  exact fun hurdle within => turns hurdle (List.mem_flatMap_of_mem mem within)

/-- In a run without a failure, the result at a position is left by its stage. -/
theorem left_of_result (succeeds : firstFailure (run.hurdles around tokens) = none)
    {position : Nat} {result : StageResult}
    (found : ((run.turnAccounts around tokens).map (·.result))[position]? = some result) :
    run.Left around run.bindings (stageCallsOf (run.program.exec around.answer tokens).trace)
      position result := by
  obtain ⟨-, turns, -⟩ := run.of_no_failure around tokens succeeds
  have all := (run.operations_hurdles_le around tokens).2 succeeds
  rw [List.getElem?_map, Option.map_eq_some_iff] at found
  obtain ⟨account, found, rfl⟩ := found
  have within := (List.getElem?_eq_some_iff.mp found).1
  rw [length_turnAccounts, ← all] at within
  exact run.left_of_succeeded around tokens within found (turns account (List.mem_of_getElem? found))

/-- **What an executing run hands back.** The stages leave one result each. The report begins as the
result of the last stage that writes the output, which is the one that the pipeline names for it, or
as nothing if there is none. It has the statistics that are asked for and the payload of the output
or the merged document, unless the last stage that writes the output does not return its data. -/
theorem executed_output_eq_report (run : Run) (around : Surroundings) (tokens : TokenPool)
    (setUp : run.pipeline.IsSetUp) (executes : run.mode = .execute)
    {output : RunOutput} (succeeds : (run.program.exec around.answer tokens).value = .ok output) :
    let calls := stageCallsOf (run.program.exec around.answer tokens).trace
    let last := lastWriter? run.pipeline.slots run.config.outputSlot
    run.pipeline.outputIndex? run.config.outputSlot = last ∧
      ∃ vars results payload, run.resolved = .ok vars ∧
        results.length = run.pipeline.stages.length ∧
        (∀ position result, results[position]? = some result →
          run.Left around vars calls position result) ∧
        run.FinalPayload results payload ∧
        output = .result
          { payload :=
              if (last.bind (run.pipeline.stages[·]?)).all (·.config.returnData) then payload
              else .empty
            counters := (run.finalStatistics results).1
            discardCauses := (run.finalStatistics results).2 } := by
  intro calls last
  have index := setUp.outputIndex?_eq run.config.outputSlot
  have value := run.program_value around tokens
  rw [succeeds] at value
  cases fails : firstFailure (run.hurdles around tokens) with
  | some error =>
      rw [fails] at value
      cases value
  | none =>
      rw [fails] at value
      obtain rfl := Except.ok.inj value
      obtain ⟨resolves, turns, merges⟩ := run.of_no_failure around tokens fails
      have ends := run.finished_ends around tokens executes
      have all := (run.operations_hurdles_le around tokens).2 fails
      rw [mergeFailure, executes] at merges
      refine ⟨index, run.bindings, _, _, resolves, ?_, fun position result found => ?_,
        ends.payloadIn_final setUp merges, ?_⟩
      · rw [List.length_map, length_turnAccounts]
      · rw [List.getElem?_map, Option.map_eq_some_iff] at found
        obtain ⟨account, found, rfl⟩ := found
        have within := (List.getElem?_eq_some_iff.mp found).1
        rw [length_turnAccounts, ← all] at within
        exact run.left_of_succeeded around tokens within found
          (turns account (List.mem_of_getElem? found))
      · rw [outputFor, executes, ends.reportIn_eq, setUp.returnsData_eq]

/-- The second stage reports the output, with the counters of the first. -/
theorem relay_reports :
    let first : StageScript :=
      { name := "first", results := fun _ => .ofCounters { insert := 3, total := 3 } }
    let second : StageScript :=
      { name := "second", results := fun _ => .ofCounters { read := 1, discard := 2 } }
    let around : Surroundings :=
      { transformer := some .tagging, stages := [first.stage 0 0, second.stage 1 0] }
    relay.pipeline.IsSetUp ∧
      (relay.program.exec around.answer {}).value = .ok (.result
        { payload := .text "note:order", counters := { insert := 3, discard := 2, total := 3 } }) ∧
      relay.pipeline.outputIndex? "b" = some 1 ∧
      ∃ results, results.length = 2 ∧ relay.FinalPayload results (.text "note:order") ∧
        relay.finalStatistics results = ({ insert := 3, discard := 2, total := 3 }, []) := by
  intro first second around
  have made : (Pipeline.setUp (StageRegistry.empty.register "idle" (StageRegistry.idle 0))
      relayConfig).outcome = .ok relay.pipeline := rfl
  have setUp : relay.pipeline.IsSetUp := .intro .placeholders made
  have succeeds : (relay.program.exec around.answer {}).value = .ok (.result
      { payload := .text "note:order", counters := { insert := 3, discard := 2, total := 3 } }) :=
    rfl
  obtain ⟨index, vars, results, payload, -, count, -, final, output⟩ :=
    relay.executed_output_eq_report around {} setUp rfl succeeds
  obtain ⟨same, counters, causes⟩ := StageResult.mk.inj (RunOutput.result.inj output)
  have returned : ((lastWriter? relay.pipeline.slots relay.config.outputSlot).bind
    (relay.pipeline.stages[·]?)).all (·.config.returnData) = true := rfl
  rw [if_pos returned] at same
  rw [← same] at final
  exact ⟨setUp, succeeds, index.trans rfl, results, count.trans rfl, final,
    Prod.ext counters.symm causes.symm⟩

end Run

end DocPipeline
