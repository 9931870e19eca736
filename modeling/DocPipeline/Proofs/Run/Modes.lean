import DocPipeline.Proofs.Run.Course
import DocPipeline.Proofs.Run.Report

/-!
# Modes that agree

Where no stage takes its input from a slot that a stage before it writes, results are not passed on,
and every stage gets what the caller brings. Then it does not matter whether a run writes because of
its mode or because all its stages are forced to, nor whether it calls or executes with every stage
going its natural way.

Reading and executing runs keep what is in the slots, and what they keep is not the same as in other
modes. So what carries the comparison is not that the slots agree, but that in either run no later
stage finds anything in the slot of its input but what the caller brings.

## Main definitions

* `Pipeline.forcing`: a pipeline with all stages forced into one direction.
* `Pipeline.SlotsApart`: no results are passed on.
* `Run.Forces`: a run, and one in another mode that forces its stages to do the same.
* `Run.OutputStands`: the payload of a calling run comes from a report that is handed back.

## Main results

* `Run.Forces.goesLike`: such runs come to the same.
* `Run.modes_agree`: writing runs agree, and so do calling and executing runs.
-/

namespace DocPipeline

/-! ### Forcing -/

/-- A stage that goes in a direction. -/
def BoundStage.forced (mode : ForcedMode) (bound : BoundStage) : BoundStage :=
  { bound with config := { bound.config with mode } }

/-- A pipeline whose stages all go in one direction. -/
def Pipeline.forcing (pipeline : Pipeline) (mode : ForcedMode) : Pipeline :=
  { pipeline with
    config := { pipeline.config with stages := pipeline.config.stages.map ({ · with mode }) }
    stages := pipeline.stages.map (.forced mode) }

/-- No stage takes its input from a slot that a stage before it writes. -/
def Pipeline.SlotsApart (pipeline : Pipeline) : Prop :=
  pipeline.stages.Pairwise fun earlier later =>
    later.config.inputSlot = "" ∨ later.config.inputSlot ≠ earlier.config.outputSlot

/-- The direction of its stages does not change which slots a pipeline writes. -/
theorem Pipeline.slots_forcing (pipeline : Pipeline) (mode : ForcedMode) :
    (pipeline.forcing mode).slots = pipeline.slots := by
  rw [slots, slots, forcing, List.map_map]
  rfl

/-- Nor does it change whether data is returned. -/
theorem Pipeline.returnsData_forcing (pipeline : Pipeline) (mode : ForcedMode) :
    (pipeline.forcing mode).returnsData = pipeline.returnsData := by
  have index : (pipeline.forcing mode).outputIndex? (pipeline.forcing mode).config.outputSlot =
      pipeline.outputIndex? pipeline.config.outputSlot := rfl
  rw [returnsData, returnsData, index]
  cases pipeline.outputIndex? pipeline.config.outputSlot with
  | none => rfl
  | some writer =>
      simp only [Option.bind_some, forcing, List.getElem?_map]
      cases pipeline.stages[writer]? with
      | none => rfl
      | some bound => rfl

/-- A stage has reported a result when it was called. -/
def Surroundings.Reported (around : Surroundings) (calls : List (Nat × StageCall))
    (position : Nat) (result : StageResult) : Prop :=
  ∃ call, (position, call) ∈ calls ∧ (around.operate position call).outcome = .ok result

namespace Run

/-! ### What the caller brings -/

section Feeding

variable {run : Run} {store : SlotStore}

/-- All of a few stages get what the caller brings. -/
def FeedsInput (run : Run) (store : SlotStore) (stages : List BoundStage) : Prop :=
  ∀ bound ∈ stages, run.source store bound.config = run.input

/-- A run begins with what the caller brings, whichever slot it is looked for in. -/
theorem feedsInput_beginning (run : Run) (stages : List BoundStage) :
    run.FeedsInput run.beginning.store stages := by
  intro bound _
  rw [source]
  split
  · rfl
  · rfl
  · exact run.beginning_source bound.config.inputSlot
  · exact run.beginning_source bound.config.inputSlot

/-- What is put into a slot does not matter to a stage that takes its input elsewhere. -/
theorem source_put {stage : StageConfig} {written : String} (result : StageResult)
    (apart : stage.inputSlot = "" ∨ stage.inputSlot ≠ written) :
    run.source (store.put written result) stage = run.source store stage := by
  have untouched : (store.put written result).get? stage.inputSlot =
      store.get? stage.inputSlot := by
    rw [SlotStore.get?_put, if_neg]
    rintro ⟨named, same⟩
    rcases apart with unnamed | other
    · exact named (same.trans unnamed)
    · exact other same.symm
  rw [source, source, untouched]

theorem FeedsInput.put {stages : List BoundStage} {written : String}
    (feeds : run.FeedsInput store stages) (result : StageResult)
    (apart : ∀ bound ∈ stages,
      bound.config.inputSlot = "" ∨ bound.config.inputSlot ≠ written) :
    run.FeedsInput (store.put written result) stages :=
  fun bound mem => (source_put result (apart bound mem)).trans (feeds bound mem)

end Feeding

/-! ### Turns of two modes -/

/-- Whatever is kept of a report, the counters are. -/
theorem kept_counters (run : Run) (operation : Operation) (sent : Payload)
    (report : StageResult) : (run.kept operation sent report).counters = report.counters := by
  rw [kept.eq_def]
  split
  · rfl
  · split
    · rfl
    · rfl
  · rfl

section TwoModes

variable {run twin : Run} {mode : ForcedMode}

/-- A second run, in a mode of its own, forces the stages of the pipeline of the first to do what
they do there, which is not only to read. The caller brings the same to both. -/
structure Forces (run twin : Run) (mode : ForcedMode) : Prop where
  pipeline : twin.pipeline = run.pipeline.forcing mode
  input : twin.input = run.input
  params : twin.params = run.params
  token : twin.token = run.token
  operation : ∀ forced, run.mode.operation forced = twin.mode.operation mode
  writes : twin.mode.operation mode ≠ .read

variable (around : Surroundings) (vars : Variables) (tokens : TokenPool)

/-- One turn of either run shows the same outside. -/
theorem Forces.account_alike (forces : run.Forces twin mode) {store other : SlotStore}
    (position : Nat) {bound : BoundStage} (feeds : run.source store bound.config = run.input)
    (feedsTwin : twin.source other (bound.forced mode).config = twin.input) :
    (run.account around vars store tokens position bound.config).Alike
      (twin.account around vars other tokens position (bound.forced mode).config) := by
  have same := forces.operation bound.config.mode
  have sameTwin : twin.mode.operation (bound.forced mode).config.mode = twin.mode.operation mode :=
    rfl
  obtain ⟨transformed, call, report, result⟩ := run.account_of_write around vars tokens store
    position bound.config (same ▸ forces.writes)
  obtain ⟨transformedTwin, callTwin, reportTwin, resultTwin⟩ := twin.account_of_write around vars
    tokens other position (bound.forced mode).config forces.writes
  have transforms : (twin.account around vars other tokens position
      (bound.forced mode).config).transformed =
        (run.account around vars store tokens position bound.config).transformed := by
    rw [transformedTwin, transformed, feeds, feedsTwin, forces.input]
    rfl
  have calls : (twin.account around vars other tokens position (bound.forced mode).config).call =
      (run.account around vars store tokens position bound.config).call := by
    rw [callTwin, call, transforms, same, sameTwin, callOf, callOf, config, forces.pipeline]
    rfl
  have reports : (twin.account around vars other tokens position
      (bound.forced mode).config).report =
        (run.account around vars store tokens position bound.config).report := by
    rw [reportTwin, report, calls]
  refine ⟨?_, ?_, ?_, transforms, calls, reports, ?_⟩
  · rw [account_position, account_position]
  · rw [Account.attributes, Account.attributes, account_position, account_position, account_stage,
      account_stage, calls]
    rfl
  · rw [account_checked, account_checked, forces.token]
    rfl
  · rw [resultTwin, result, kept_counters, kept_counters, reports]

/-- **The turns of either run** show the same outside, as long as every stage gets what the caller
brings. -/
theorem Forces.accountsFrom_alike (forces : run.Forces twin mode) {stages : List BoundStage}
    (apart : stages.Pairwise fun earlier later =>
      later.config.inputSlot = "" ∨ later.config.inputSlot ≠ earlier.config.outputSlot)
    {store other : SlotStore} (position : Nat) (feeds : run.FeedsInput store stages)
    (feedsTwin : twin.FeedsInput other (stages.map (.forced mode))) :
    Account.AllAlike (run.accountsFrom around vars position stages store tokens)
      (twin.accountsFrom around vars position (stages.map (.forced mode)) other tokens) := by
  induction stages generalizing position store other tokens with
  | nil => exact .nil
  | cons bound rest ih =>
      obtain ⟨apartFirst, apartRest⟩ := List.pairwise_cons.mp apart
      have alike := forces.account_alike around vars tokens position (feeds bound List.mem_cons_self)
        (feedsTwin _ List.mem_cons_self)
      have sameTokens := congrArg₂ (fun position call =>
        Surroundings.cancelling tokens (around.operate position call).cancelling)
        alike.position alike.call
      rw [List.map_cons, accountsFrom, accountsFrom]
      refine .cons alike ?_
      rw [Account.tokensAfter, Account.tokensAfter, sameTokens]
      refine ih _ apartRest _ ?_ ?_
      · exact FeedsInput.put (fun later mem => feeds later (List.mem_cons_of_mem _ mem)) _ apartFirst
      · refine FeedsInput.put (fun later mem => feedsTwin later (List.mem_cons_of_mem _ mem)) _ ?_
        intro later mem
        obtain ⟨plain, present, rfl⟩ := List.mem_map.mp mem
        exact apartFirst plain present

/-- Without merge rules, no conclusion fails. -/
theorem mergeFailure_of_unmerged {run : Run} (unmerged : run.pipeline.mergePlan = none)
    (store : SlotStore) : run.mergeFailure store = none := by
  rw [mergeFailure, mergedIn, unmerged]
  cases run.mode <;> rfl

/-- **Runs of two modes come to the same** where no results are passed on and nothing is merged. -/
theorem Forces.goesLike (forces : run.Forces twin mode) (apart : run.pipeline.SlotsApart)
    (unmerged : run.pipeline.mergePlan = none) : run.GoesLike around tokens twin := by
  have resolved : twin.resolved = run.resolved := by
    rw [Run.resolved, Run.resolved, config, forces.pipeline, forces.params]
    rfl
  have bindings : twin.bindings = run.bindings := by rw [Run.bindings, Run.bindings, resolved]
  have stages : twin.pipeline.stages = run.pipeline.stages.map (.forced mode) := by
    rw [forces.pipeline]
    rfl
  refine ⟨resolved, ?_, ?_, ?_, ?_⟩
  · rw [config, forces.pipeline]
    rfl
  · rw [config, forces.pipeline]
    rfl
  · have feedsTwin := twin.feedsInput_beginning (run.pipeline.stages.map (.forced mode))
    have alike := forces.accountsFrom_alike around run.bindings tokens apart 0
      (run.feedsInput_beginning _) feedsTwin
    rw [turnAccounts, turnAccounts, accounts, accounts, bindings, stages]
    exact alike
  · have unmergedTwin : twin.pipeline.mergePlan = none := by
      rw [forces.pipeline]
      exact unmerged
    rw [mergeFailure_of_unmerged unmerged, mergeFailure_of_unmerged unmergedTwin]

end TwoModes

/-! ### What calling and executing runs hand back -/

section Returned

variable (run : Run) (around : Surroundings)

/-- The last stage that writes the output, if there is one, returns its data, and has reported some
when it was called. -/
def OutputStands (calls : List (Nat × StageCall)) : Prop :=
  ∀ writer, lastWriter? run.pipeline.slots run.config.outputSlot = some writer →
    ∃ bound report, run.pipeline.stages[writer]? = some bound ∧ bound.config.returnData = true ∧
      around.Reported calls writer report ∧ report.payload.isEmpty = false

variable {run : Run} {around : Surroundings} {tokens : TokenPool} {twin : Run}

/-- What a calling run keeps of a turn is the report. -/
theorem Left.report_of_call (calls : run.mode = .call) {vars : Variables}
    {asked : List (Nat × StageCall)} {position : Nat} {result : StageResult}
    (left : run.Left around vars asked position result) :
    around.Reported asked position result := by
  obtain ⟨bound, call, report, payload, -, shown, reports, leaves, rfl⟩ := left
  rw [Leaves, calls] at leaves
  obtain rfl : payload = report.payload := leaves
  exact ⟨call, shown, reports⟩

/-- What an executing run keeps of a turn that goes the natural way is the report, if there is
anything in it. -/
theorem Left.report_of_execute (executes : run.mode = .execute)
    (natural : ∀ bound ∈ run.pipeline.stages, bound.config.mode = .natural) {vars : Variables}
    {asked : List (Nat × StageCall)} {position : Nat} {result : StageResult}
    (filled : ∀ report, around.Reported asked position report → report.payload.isEmpty = false)
    (left : run.Left around vars asked position result) :
    around.Reported asked position result := by
  obtain ⟨bound, call, report, payload, present, shown, reports, leaves, rfl⟩ := left
  rw [Leaves, executes, natural bound (List.mem_of_getElem? present)] at leaves
  simp only [filled report ⟨call, shown, reports⟩, Bool.false_eq_true, reduceIte] at leaves
  obtain rfl : payload = report.payload := leaves
  exact ⟨call, shown, reports⟩

/-- A stage reports once at most. -/
theorem reported_unique {position : Nat} {report other : StageResult}
    (reported : around.Reported (stageCallsOf (run.program.exec around.answer tokens).trace)
      position report)
    (again : around.Reported (stageCallsOf (run.program.exec around.answer tokens).trace)
      position other) :
    report = other := by
  obtain ⟨call, shown, reports⟩ := reported
  obtain ⟨twice, shownTwice, reportsTwice⟩ := again
  obtain ⟨-, account, found, rfl⟩ := (run.mem_stageCallsOf_iff around tokens).mp shown
  obtain ⟨-, same, there, rfl⟩ := (run.mem_stageCallsOf_iff around tokens).mp shownTwice
  obtain rfl : account = same := Option.some.inj (found.symm.trans there)
  exact Except.ok.inj (reports.symm.trans reportsTwice)

/-- Where the report of a stage is kept, it is the result at its position. -/
theorem result_of_reported (succeeds : firstFailure (run.hurdles around tokens) = none)
    {position : Nat} {report : StageResult}
    (reported : around.Reported (stageCallsOf (run.program.exec around.answer tokens).trace)
      position report)
    (keeps : ∀ result, run.Left around run.bindings
      (stageCallsOf (run.program.exec around.answer tokens).trace) position result →
        around.Reported (stageCallsOf (run.program.exec around.answer tokens).trace) position
          result) :
    ((run.turnAccounts around tokens).map (·.result))[position]? = some report := by
  have ⟨call, shown, _⟩ := reported
  obtain ⟨-, account, found, -⟩ := (run.mem_stageCallsOf_iff around tokens).mp shown
  have here : ((run.turnAccounts around tokens).map (·.result))[position]? =
      some account.result := by
    rw [List.getElem?_map, found, Option.map_some]
  have kept := keeps _ (run.left_of_result around tokens succeeds here)
  rw [here, reported_unique kept reported]

/-- A calling run and an executing run that go alike hand back the same payload, if the one of the
calling run comes from a stage that returns its data, or from none. -/
theorem Forces.returned_alike (forces : run.Forces twin .natural) (calls : run.mode = .call)
    (executes : twin.mode = .execute) (setUp : run.pipeline.IsSetUp)
    (unmerged : run.pipeline.mergePlan = none) (alike : run.GoesLike around tokens twin)
    (succeeds : firstFailure (run.hurdles around tokens) = none)
    (stands : run.OutputStands around
      (stageCallsOf (run.program.exec around.answer tokens).trace)) :
    run.outputFor (run.finished around tokens) =
      .payload (twin.reportIn (twin.finished around tokens)).payload := by
  have ends := run.ends_of_beginning around tokens (by rw [beginning, calls])
  have endsTwin := twin.finished_ends around tokens executes
  have handedBack : run.outputFor (run.finished around tokens) =
      .payload (run.finalOutput ((run.turnAccounts around tokens).map (·.result))).payload := by
    rw [outputFor.eq_def, calls, ← ends.outputIn_eq]
  have unmergedTwin : twin.pipeline.mergePlan = none := by
    rw [forces.pipeline]
    exact unmerged
  have reported : (twin.reportIn (twin.finished around tokens)).payload =
      if run.pipeline.returnsData then
        (twin.finalOutput ((twin.turnAccounts around tokens).map (·.result))).payload
      else .empty := by
    rw [endsTwin.reportIn_eq, forces.pipeline, Pipeline.returnsData_forcing, payloadIn, mergedIn,
      unmergedTwin]
    rfl
  have slots : twin.pipeline.slots = run.pipeline.slots := by
    rw [forces.pipeline, Pipeline.slots_forcing]
  have outputSlot : twin.config.outputSlot = run.config.outputSlot := by
    rw [config, forces.pipeline]
    rfl
  rw [handedBack, reported, setUp.returnsData_eq, finalOutput, finalOutput, finalIn, finalIn, slots,
    outputSlot]
  cases last : lastWriter? run.pipeline.slots run.config.outputSlot with
  | none => rfl
  | some writer =>
      obtain ⟨bound, report, present, returned, reported, filled⟩ := stands writer last
      have reportedTwin := reported
      rw [← alike.sameCourse.stageCalls] at reportedTwin
      have succeedsTwin : firstFailure (twin.hurdles around tokens) = none := by
        rw [alike.hurdles_eq, succeeds]
      have natural : ∀ bound ∈ twin.pipeline.stages, bound.config.mode = .natural := by
        intro bound mem
        rw [forces.pipeline] at mem
        obtain ⟨plain, -, rfl⟩ := List.mem_map.mp mem
        rfl
      have own := result_of_reported succeeds reported fun result => Left.report_of_call calls
      have theirs := result_of_reported succeedsTwin reportedTwin fun result =>
        Left.report_of_execute executes natural fun other again =>
          reported_unique reportedTwin again ▸ filled
      rw [Option.bind_some, Option.bind_some, Option.bind_some, own, theirs, present]
      simp [returned]

end Returned

/-! ### The modes -/

/-- **Where modes agree.** In a pipeline that merges nothing and passes no results on, writing runs,
executing runs whose stages are all forced to write, and reading runs whose stages are all forced to
write take the same course. So do calling runs and executing runs whose stages all go their natural
way; and these hand back the same payload, if no stage writes the output, or the last one that does
returns its data and has reported some. -/
theorem modes_agree (run : Run) (around : Surroundings) (tokens : TokenPool)
    (setUp : run.pipeline.IsSetUp) (few : run.config.merges.length < 2)
    (apart : run.pipeline.SlotsApart) (executed pulled : String) :
    let carried (run : Run) := run.program.exec around.answer tokens
    let pushing := carried { run with mode := .push }
    let calling := carried { run with mode := .call }
    let executing (forced : ForcedMode) := carried
      { run with mode := .execute, id := executed, pipeline := run.pipeline.forcing forced }
    let pulling := carried
      { run with mode := .pull, id := pulled, pipeline := run.pipeline.forcing .toDatabase }
    (SameCourse pushing (executing .toDatabase) ∧ SameCourse pushing pulling) ∧
      SameCourse calling (executing .natural) ∧
      ∀ output, calling.value = .ok output →
        run.OutputStands around (stageCallsOf calling.trace) →
        ∃ result, (executing .natural).value = .ok (.result result) ∧
          output = .payload result.payload := by
  intro carried pushing calling executing pulling
  have unmerged : run.pipeline.mergePlan = none := by
    have many := MergePlan.compile_isSome setUp.compiles
    rw [decide_eq_false (Nat.not_le_of_lt few)] at many
    exact Option.not_isSome_iff_eq_none.mp (by simp [many])
  have writesExecuting : Forces { run with mode := .push }
      { run with mode := .execute, id := executed, pipeline := run.pipeline.forcing .toDatabase }
      .toDatabase := ⟨rfl, rfl, rfl, rfl, fun _ => rfl, nofun⟩
  have writesPulling : Forces { run with mode := .push }
      { run with mode := .pull, id := pulled, pipeline := run.pipeline.forcing .toDatabase }
      .toDatabase := ⟨rfl, rfl, rfl, rfl, fun _ => rfl, nofun⟩
  have callsExecuting : Forces { run with mode := .call }
      { run with mode := .execute, id := executed, pipeline := run.pipeline.forcing .natural }
      .natural := ⟨rfl, rfl, rfl, rfl, fun _ => rfl, nofun⟩
  have alike := callsExecuting.goesLike around tokens apart unmerged
  refine ⟨⟨(writesExecuting.goesLike around tokens apart unmerged).sameCourse,
    (writesPulling.goesLike around tokens apart unmerged).sameCourse⟩, alike.sameCourse,
    fun output succeeds stands => ?_⟩
  have ends : calling.value = _ := program_value _ around tokens
  have endsTwin : (executing .natural).value = _ := program_value _ around tokens
  rw [alike.hurdles_eq] at endsTwin
  cases fails : firstFailure (Run.hurdles { run with mode := .call } around tokens) with
  | some error =>
      rw [ends, fails] at succeeds
      cases succeeds
  | none =>
      rw [fails] at ends endsTwin
      have returned := callsExecuting.returned_alike rfl rfl setUp unmerged alike fails stands
      exact ⟨_, endsTwin, (Except.ok.inj (succeeds.symm.trans ends)).trans returned⟩

/-- Two stages that both take what the caller brings. -/
theorem relay_modes_agree :
    let config : PipelineConfig :=
      { relayConfig with stages := relayConfig.stages.map ({ · with inputSlot := "" }) }
    let stages : List BoundStage := config.stages.map fun declared =>
      ⟨config.bind declared, .idle 0 declared.name⟩
    let run : Run := { relay with pipeline := { relay.pipeline with config, stages } }
    let second : StageScript := { name := "second", results := fun _ => .ofPayload (.text "done") }
    let around : Surroundings :=
      { transformer := some .tagging, stages := [.idle 0 "first", second.stage 1 0] }
    let pulling : Run :=
      { run with mode := .pull, id := "3", pipeline := run.pipeline.forcing .toDatabase }
    let executing : Run :=
      { run with mode := .execute, id := "2", pipeline := run.pipeline.forcing .natural }
    run.pipeline.IsSetUp ∧ run.config.merges.length < 2 ∧ run.pipeline.SlotsApart ∧
      (stageCallsOf (pulling.program.exec around.answer {}).trace).map (·.2.payload) =
        [some (.text "order"), some (.text "note:order")] ∧
      ∃ result, (executing.program.exec around.answer {}).value = .ok (.result result) ∧
        result.payload = .text "done" := by
  intro config stages run second around pulling executing
  have made : (Pipeline.setUp (StageRegistry.empty.register "idle" (StageRegistry.idle 0))
      config).outcome = .ok run.pipeline := rfl
  have setUp : run.pipeline.IsSetUp := .intro .placeholders made
  have few : run.config.merges.length < 2 := by decide
  have apart : run.pipeline.SlotsApart := by
    simp [Pipeline.SlotsApart, run, stages, config, relayConfig, PipelineConfig.bind]
  obtain ⟨⟨-, pulled⟩, -, returned⟩ := run.modes_agree around {} setUp few apart "2" "3"
  have shown : (stageCallsOf (pulling.program.exec around.answer {}).trace).map (·.2.payload) =
      [some (.text "order"), some (.text "note:order")] := by
    rw [pulled.stageCalls]
    decide +kernel
  have succeeds : (Program.exec around.answer ({ run with mode := .call } : Run).program {}).value =
      .ok (.payload (.text "done")) := by
    decide +kernel
  have stands : run.OutputStands around (stageCallsOf
      (Program.exec around.answer ({ run with mode := .call } : Run).program {}).trace) := by
    intro writer last
    obtain rfl : 1 = writer := Option.some.inj last
    refine ⟨stages[1], .ofPayload (.text "done"), rfl, rfl,
      ⟨run.callOf .empty .writeThenRead (some (.text "note:order")), ?_, rfl⟩, rfl⟩
    decide +kernel
  obtain ⟨result, executed, same⟩ := returned _ succeeds stands
  exact ⟨setUp, few, apart, shown, result, executed, (RunOutput.payload.inj same).symm⟩

end Run

end DocPipeline
