import DocPipeline.Proofs.Run.Cancellation
import DocPipeline.Proofs.Run.Course
import DocPipeline.Proofs.Run.Report

/-!
# Settings for what comes after the work

Where the statistics of a run come from, whether payloads are recorded, and whether the payload of a
stage is handed back: such settings are for what comes after the work. Two runs that differ in them
only take the same course and are heard of in the same way. They leave the same in their slots, so
that what they hand back differs at most in executing runs, and there only as the settings say.

## Main definitions

* `PipelineConfig.core`: a configuration with these settings at their defaults.
* `Run.DiffersInSettings`: two runs that differ in these settings only.
* `Account.Mirrors`: two turns that differ only in whether the payload is handed back.
* `Event.under`: what is heard of a run that goes by another name.

## Main results

* `Run.DiffersInSettings.turns_mirror`: the turns of such runs, one by one.
* `Run.settings_have_no_side_effects`: what the settings change, and what they do not.
-/

namespace DocPipeline

/-! ### What the settings leave -/

/-- The configuration of a stage with the payload handed back. -/
def StageConfig.core (stage : StageConfig) : StageConfig := { stage with returnData := true }

/-- A configuration without statistics and records, and with all payloads handed back. -/
def PipelineConfig.core (config : PipelineConfig) : PipelineConfig :=
  { config with stages := config.stages.map .core, statsSlot := none, dumping := false }

/-- Configurations with one core are the same but for one setting. -/
theorem StageConfig.eq_of_core_eq {stage other : StageConfig} (same : other.core = stage.core) :
    other = { stage with returnData := other.returnData } := by
  obtain ⟨⟩ := stage
  obtain ⟨⟩ := other
  simp_all [core]

/-- The stages of a pipeline that was set up, without the settings. -/
theorem Pipeline.IsSetUp.stageCores {pipeline : Pipeline} (ready : pipeline.IsSetUp) :
    pipeline.stages.map (·.config.core) =
      pipeline.config.core.stages.map pipeline.config.core.bind := by
  have cores := congrArg (List.map StageConfig.core) ready.stageConfigs
  rw [List.map_map, List.map_map] at cores
  rw [PipelineConfig.core, List.map_map]
  exact cores

/-- What is heard of a run that goes by another name. -/
def Event.under (id : String) : Event → Event
  | .run attributes moment => .run { attributes with runId := id } moment
  | .stage attributes moment => .stage attributes moment

/-- What is heard of stages does not name the run. -/
theorem map_under_stageEventsOf (id : String) (trace : List Request) :
    (stageEventsOf trace).map (.under id) = stageEventsOf trace := by
  have same : ∀ event ∈ stageEventsOf trace, event.under id = event := by
    intro event mem
    obtain ⟨-, ofStage⟩ := List.mem_filter.mp mem
    cases event with
    | run attributes moment => cases ofStage
    | stage attributes moment => rfl
  rw [List.map_congr_left same, List.map_id']

/-- How a run ends is told by how it fails, and not by what it hands back. -/
theorem RunMoment.ofOutcome_congr {first second : Except RunFailure RunOutput}
    (same : RunFailure.errorOf? second = RunFailure.errorOf? first) :
    ofOutcome second = ofOutcome first := by
  rcases first with ⟨_, _, error⟩ | output
  · rcases second with ⟨_, _, other⟩ | output
    · obtain rfl := Option.some.inj same
      cases other <;> rfl
    · cases same
  · rcases second with failure | other
    · cases same
    · rfl

/-! ### Turns -/

/-- Two turns that differ only in whether the payload is handed back. -/
def Account.Mirrors (account other : Account) : Prop :=
  ∃ returnData, other = { account with stage := { account.stage with returnData } }

theorem Account.Mirrors.result_eq {account other : Account} (mirrors : account.Mirrors other) :
    other.result = account.result := by
  obtain ⟨returnData, rfl⟩ := mirrors
  rfl

/-- They show the same outside. -/
theorem Account.Mirrors.alike {account other : Account} (mirrors : account.Mirrors other) :
    account.Alike other := by
  obtain ⟨returnData, rfl⟩ := mirrors
  exact ⟨rfl, rfl, rfl, rfl, rfl, rfl, rfl⟩

/-- Turns that differ only in whether payloads are handed back lead to the same slots. -/
theorem Progress.through_mirrors {accounts others : List Account}
    (mirrors : List.Forall₂ Account.Mirrors accounts others) (progress : Progress) :
    progress.through others = progress.through accounts := by
  induction mirrors generalizing progress with
  | nil => rfl
  | cons first _ ih =>
      obtain ⟨returnData, rfl⟩ := first
      exact ih _

namespace Run

/-! ### Two runs -/

/-- Two runs that differ in the settings for what comes after the work only, and in the names they
go by. -/
structure DiffersInSettings (run twin : Run) : Prop where
  setUp : run.pipeline.IsSetUp
  setUpTwin : twin.pipeline.IsSetUp
  config : twin.config.core = run.config.core
  expander : twin.pipeline.expander = run.pipeline.expander
  mode : twin.mode = run.mode
  input : twin.input = run.input
  params : twin.params = run.params
  token : twin.token = run.token

namespace DiffersInSettings

variable {run twin : Run} (apart : run.DiffersInSettings twin)

include apart

theorem managesCommit_eq : twin.config.managesCommit = run.config.managesCommit :=
  (congrArg PipelineConfig.managesCommit apart.config :)

theorem outputSlot_eq : twin.config.outputSlot = run.config.outputSlot :=
  (congrArg PipelineConfig.outputSlot apart.config :)

theorem name_eq : twin.config.name = run.config.name :=
  (congrArg PipelineConfig.name apart.config :)

theorem connectionName_eq : twin.config.connectionName = run.config.connectionName :=
  (congrArg PipelineConfig.connectionName apart.config :)

theorem stageCores_eq :
    twin.pipeline.stages.map (·.config.core) = run.pipeline.stages.map (·.config.core) := by
  rw [apart.setUp.stageCores, apart.setUpTwin.stageCores, apart.config]

theorem mergePlan_eq : twin.pipeline.mergePlan = run.pipeline.mergePlan := by
  have compiles := apart.setUp.compiles
  have merges : twin.config.merges = run.config.merges :=
    (congrArg PipelineConfig.merges apart.config :)
  rw [← merges, apart.setUpTwin.compiles] at compiles
  exact Except.ok.inj compiles

theorem resolved_eq : twin.resolved = run.resolved := by
  have resolving : twin.config.resolving = run.config.resolving :=
    (congrArg PipelineConfig.resolving apart.config :)
  have vars : twin.config.vars = run.config.vars := (congrArg PipelineConfig.vars apart.config :)
  rw [resolved, resolved, apart.expander, resolving, vars, apart.params]

theorem stageCount_eq : twin.pipeline.stages.length = run.pipeline.stages.length := by
  simpa using congrArg List.length apart.stageCores_eq

theorem attributes_eq : twin.attributes = { run.attributes with runId := twin.id } := by
  rw [attributes, apart.name_eq, apart.mode, apart.connectionName_eq, apart.managesCommit_eq,
    apart.stageCount_eq]
  rfl

/-- Both begin with the same in their slots. -/
theorem beginning_eq : twin.beginning = run.beginning := by
  have cores := apart.stageCores_eq
  rw [beginning, beginning, apart.mode, apart.input]
  cases run.mode with
  | push | call | execute => rfl
  | pull =>
      cases stages : run.pipeline.stages with
      | nil =>
          rw [stages, List.map_nil, List.map_eq_nil_iff] at cores
          rw [cores]
      | cons first rest =>
          rw [stages, List.map_cons] at cores
          obtain ⟨firstTwin, restTwin, stagesTwin, same, -⟩ := List.map_eq_cons_iff.mp cores
          have inputSlot : firstTwin.config.inputSlot = first.config.inputSlot :=
            (congrArg StageConfig.inputSlot same :)
          simp only [stagesTwin, inputSlot]

variable (around : Surroundings) (vars : Variables) (tokens : TokenPool)

/-- One turn of either run. -/
theorem account_mirrors (store : SlotStore) (position : Nat) {stage other : StageConfig}
    (same : other.core = stage.core) :
    (run.account around vars store tokens position stage).Mirrors
      (twin.account around vars store tokens position other) := by
  refine ⟨other.returnData, ?_⟩
  rw [account_stage, StageConfig.eq_of_core_eq same]
  simp only [account.eq_def, callOf, source, raw, kept.eq_def, apart.mode, apart.input, apart.token,
    apart.managesCommit_eq]
  split <;> rfl

/-- The turns of either run, one by one. -/
theorem accountsFrom_mirror {stages others : List BoundStage}
    (same : others.map (·.config.core) = stages.map (·.config.core)) (store : SlotStore)
    (position : Nat) :
    List.Forall₂ Account.Mirrors (run.accountsFrom around vars position stages store tokens)
      (twin.accountsFrom around vars position others store tokens) := by
  induction stages generalizing others store position tokens with
  | nil =>
      rw [List.map_nil, List.map_eq_nil_iff] at same
      rw [same]
      exact .nil
  | cons bound rest ih =>
      rw [List.map_cons] at same
      obtain ⟨other, others, rfl, sameFirst, sameRest⟩ := List.map_eq_cons_iff.mp same
      have mirrors := apart.account_mirrors around vars tokens store position sameFirst
      have outputSlot : other.config.outputSlot = bound.config.outputSlot :=
        (congrArg StageConfig.outputSlot sameFirst :)
      rw [accountsFrom, accountsFrom]
      refine .cons mirrors ?_
      rw [Account.tokensAfter, Account.tokensAfter, mirrors.alike.position, mirrors.alike.call,
        mirrors.result_eq, outputSlot]
      exact ih _ sameRest _ _

/-- **The turns of either run** differ only in whether payloads are handed back. -/
theorem turns_mirror :
    List.Forall₂ Account.Mirrors (run.turnAccounts around tokens)
      (twin.turnAccounts around tokens) := by
  rw [turnAccounts, turnAccounts, accounts, accounts, bindings, bindings, apart.resolved_eq,
    apart.beginning_eq]
  exact apart.accountsFrom_mirror around _ tokens apart.stageCores_eq _ 0

/-- What either run has in its slots when all stages have had their turns. -/
theorem finished_eq : twin.finished around tokens = run.finished around tokens := by
  rw [finished, finished, apart.beginning_eq,
    Progress.through_mirrors (apart.turns_mirror around tokens)]

theorem mergedIn_eq (store : SlotStore) : twin.mergedIn store = run.mergedIn store := by
  rw [mergedIn, mergedIn, apart.mergePlan_eq]

/-- **Both runs come to the same.** -/
theorem goesLike : run.GoesLike around tokens twin where
  resolved := apart.resolved_eq
  connectionName := apart.connectionName_eq
  managesCommit := apart.managesCommit_eq
  turns := (apart.turns_mirror around tokens).imp fun _ _ mirrors => mirrors.alike
  merge := by
    rw [apart.finished_eq, mergeFailure, mergeFailure, apart.mode, apart.mergedIn_eq]

/-- What is heard of one run is heard of the other under its own name. -/
theorem events_eq :
    eventsOf (twin.program.exec around.answer tokens).trace =
      (eventsOf (run.program.exec around.answer tokens).trace).map (.under twin.id) := by
  have course := (apart.goesLike around tokens).sameCourse
  rw [program_eventsOf, program_eventsOf, List.map_append, List.map_cons, map_under_stageEventsOf,
    course.stageEvents, RunMoment.ofOutcome_congr course.failure, apart.attributes_eq]
  rfl

/-- The tokens are left alike: only stages cancel them, and the same are called. -/
theorem tokens_eq :
    (twin.program.exec around.answer tokens).tokens =
      (run.program.exec around.answer tokens).tokens := by
  rw [Program.exec_tokens, Program.exec_tokens, Surroundings.tokensAfter_eq,
    Surroundings.tokensAfter_eq, (apart.goesLike around tokens).sameCourse.stageCalls]

/-! ### What they hand back -/

theorem outputIn_eq (store : SlotStore) : twin.outputIn store = run.outputIn store := by
  rw [outputIn, outputIn, apart.outputSlot_eq]

theorem payloadIn_eq (store : SlotStore) (payload : Payload) :
    twin.payloadIn store payload = run.payloadIn store payload := by
  rw [payloadIn, payloadIn, apart.mergedIn_eq]

/-- Outside of executing runs, the settings do not show in what is handed back. -/
theorem outputFor_eq (progress : Progress) (hands : run.mode ≠ .execute) :
    twin.outputFor progress = run.outputFor progress := by
  rw [outputFor.eq_def, outputFor.eq_def, apart.mode, apart.outputIn_eq, apart.payloadIn_eq]
  cases mode : run.mode with
  | execute => exact absurd mode hands
  | push | pull | call => rfl

/-- The payload of a report only shows whether it is handed back. -/
theorem reportIn_payload_eq (progress : Progress)
    (returns : twin.pipeline.returnsData = run.pipeline.returnsData) :
    (twin.reportIn progress).payload = (run.reportIn progress).payload := by
  rw [reportIn_payload, reportIn_payload, returns, apart.outputIn_eq, apart.payloadIn_eq]

/-- The statistics of a report only show where they come from. -/
theorem reportIn_statistics_eq (progress : Progress)
    (statsSlot : twin.config.statsSlot = run.config.statsSlot) :
    (twin.reportIn progress).counters = (run.reportIn progress).counters ∧
      (twin.reportIn progress).discardCauses = (run.reportIn progress).discardCauses := by
  have statistics (output : StageResult) :
      twin.statisticsIn progress output = run.statisticsIn progress output := by
    rw [statisticsIn, statisticsIn, statsSlot, apart.outputSlot_eq]
  obtain ⟨counters, discardCauses⟩ := run.reportIn_statistics progress
  obtain ⟨countersTwin, discardCausesTwin⟩ := twin.reportIn_statistics progress
  rw [apart.outputIn_eq, statistics] at countersTwin discardCausesTwin
  exact ⟨countersTwin.trans counters.symm, discardCausesTwin.trans discardCauses.symm⟩

end DiffersInSettings

variable (run : Run) (around : Surroundings) (tokens : TokenPool)

/-- A run hands something back if none of its steps fails. -/
theorem program_value_eq_ok_iff {output : RunOutput} :
    (run.program.exec around.answer tokens).value = .ok output ↔
      firstFailure (run.hurdles around tokens) = none ∧
        output = run.outputFor (run.finished around tokens) := by
  rw [program_value]
  cases firstFailure (run.hurdles around tokens) with
  | none => simp [eq_comm]
  | some error => simp

/-- **Settings for what comes after the work have no side effects.** Two runs that differ in them
only take the same course, let the same stages clean up and leave the same tokens, and the same is
heard of them except for their names. What they hand back is the same outside of executing runs. In
those the payload is the same, unless the stage that decides whether it is handed back says so in
one run only, and the statistics are the same, unless they are taken from different places. -/
theorem settings_have_no_side_effects (run twin : Run) (around : Surroundings) (tokens : TokenPool)
    (apart : run.DiffersInSettings twin) :
    let first := run.program.exec around.answer tokens
    let second := twin.program.exec around.answer tokens
    SameCourse first second ∧ cleanUpsOf second.trace = cleanUpsOf first.trace ∧
      second.tokens = first.tokens ∧
      eventsOf second.trace = (eventsOf first.trace).map (.under twin.id) ∧
      (run.mode ≠ .execute → ∀ output, second.value = .ok output ↔ first.value = .ok output) ∧
      (run.mode = .execute → ∀ output, first.value = .ok output →
        ∃ result other, output = .result result ∧ second.value = .ok (.result other) ∧
          (twin.pipeline.returnsData = run.pipeline.returnsData →
            other.payload = result.payload) ∧
          (twin.config.statsSlot = run.config.statsSlot →
            other.counters = result.counters ∧ other.discardCauses = result.discardCauses)) := by
  intro first second
  have alike := apart.goesLike around tokens
  refine ⟨alike.sameCourse, ?_, apart.tokens_eq around tokens, apart.events_eq around tokens,
    fun hands output => ?_, fun executes output succeeds => ?_⟩
  · rw [program_cleanUps, program_cleanUps, apart.stageCount_eq]
  · rw [program_value_eq_ok_iff, program_value_eq_ok_iff, alike.hurdles_eq, apart.finished_eq,
      apart.outputFor_eq _ hands]
  · obtain ⟨clear, rfl⟩ := (run.program_value_eq_ok_iff around tokens).mp succeeds
    have reports : run.outputFor (run.finished around tokens) =
        .result (run.reportIn (run.finished around tokens)) := by
      rw [outputFor.eq_def, executes]
    have reportsTwin : twin.outputFor (twin.finished around tokens) =
        .result (twin.reportIn (run.finished around tokens)) := by
      rw [outputFor.eq_def, apart.mode, executes, apart.finished_eq]
    refine ⟨_, _, reports, ?_, apart.reportIn_payload_eq _, apart.reportIn_statistics_eq _⟩
    refine (twin.program_value_eq_ok_iff around tokens).mpr ⟨?_, reportsTwin.symm⟩
    rw [alike.hurdles_eq, clear]

/-- The run of two stages, and another one that records payloads, takes no statistics from elsewhere
and keeps the payload of the first stage back. -/
theorem relay_settings :
    let config : PipelineConfig :=
      { relayConfig with
        stages := relayConfig.stages.modify 0 ({ · with returnData := false })
        statsSlot := none
        dumping := true }
    let stages : List BoundStage := config.stages.map fun declared =>
      ⟨config.bind declared, .idle 0 declared.name⟩
    let twin : Run :=
      { relay with id := "2", pipeline := { relay.pipeline with config, stages } }
    let first : StageScript :=
      { name := "first", results := fun _ => .ofCounters { insert := 3, total := 3 } }
    let around : Surroundings :=
      { transformer := some .tagging, stages := [first.stage 0 0, .idle 1 "second"] }
    relay.DiffersInSettings twin ∧
      eventsOf (twin.program.exec around.answer {}).trace =
        (eventsOf (relay.program.exec around.answer {}).trace).map (.under "2") ∧
      ∃ result other,
        (relay.program.exec around.answer {}).value = .ok (.result result) ∧
          (twin.program.exec around.answer {}).value = .ok (.result other) ∧
          result.counters = { insert := 3, total := 3 } ∧ other.counters = .zero ∧
          other.payload = result.payload := by
  intro config stages twin first around
  have made : (Pipeline.setUp (StageRegistry.empty.register "idle" (StageRegistry.idle 0))
      relayConfig).outcome = .ok relay.pipeline := rfl
  have madeTwin : (Pipeline.setUp (StageRegistry.empty.register "idle" (StageRegistry.idle 0))
      config).outcome = .ok twin.pipeline := rfl
  have apart : relay.DiffersInSettings twin :=
    ⟨.intro .placeholders made, .intro .placeholders madeTwin, rfl, rfl, rfl, rfl, rfl, rfl⟩
  obtain ⟨-, -, -, events, -, reports⟩ :=
    relay.settings_have_no_side_effects twin around {} apart
  have succeeds : (relay.program.exec around.answer {}).value = .ok (.result
      { payload := .text "note:order", counters := { insert := 3, total := 3 } }) := by
    decide +kernel
  have succeedsTwin : (twin.program.exec around.answer {}).value = .ok (.result
      { payload := .text "note:order" }) := by
    decide +kernel
  obtain ⟨result, other, output, value, payload, -⟩ := reports rfl _ succeeds
  obtain rfl := RunOutput.result.inj output
  obtain rfl := RunOutput.result.inj (Except.ok.inj (succeedsTwin.symm.trans value))
  exact ⟨apart, events, _, _, succeeds, value, rfl, rfl, payload rfl⟩

end Run

end DocPipeline
