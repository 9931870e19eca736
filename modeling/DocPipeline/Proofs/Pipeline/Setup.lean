import DocPipeline.Pipeline.Setup
import DocPipeline.Proofs.Slots

/-!
# Pipelines that were set up

The parts of a pipeline that was set up belong together: the index of slots names the last stage
that writes each slot, and the merge rules are those of the configuration, read.

## Main definitions

* `Pipeline.IsSetUp`: a pipeline was set up.

## Main results

* `Setup.addStages_indexed`: making stages keeps the index in step with them.
* `Pipeline.IsSetUp.outputIndex?_eq`, `Pipeline.IsSetUp.stageConfigs`,
  `Pipeline.IsSetUp.compiles`: how the parts belong together.
-/

namespace DocPipeline

/-- The slots that the stages of a pipeline write, in order. -/
def Pipeline.slots (pipeline : Pipeline) : List String :=
  pipeline.stages.map (·.config.outputSlot)

/-- A pipeline that was set up from some configuration. How the variables of its runs are resolved
may be chosen afterwards. -/
inductive Pipeline.IsSetUp : Pipeline → Prop where
  | intro {registry : StageRegistry} {config : PipelineConfig} {ready : Pipeline}
    (expander : Expander) (made : (Pipeline.setUp registry config).outcome = .ok ready) :
    IsSetUp { ready with expander }

/-! ### The index of slots -/

namespace Setup

/-- The index names the last stage that writes each slot. -/
def Indexed (setup : Setup) : Prop :=
  ∀ slot, setup.outputs.get? slot = lastWriter? (setup.stages.map (·.config.outputSlot)) slot

theorem empty_indexed : Indexed {} := fun _ => rfl

/-- One more stage at the end is entered in the index. -/
theorem place_indexed {setup : Setup} (indexed : setup.Indexed) (pipeline : String)
    (bound : BoundStage) : (setup.place pipeline bound).Indexed := by
  intro slot
  rw [place, List.map_append, List.map_singleton, lastWriter?_append_singleton, List.length_map,
    ← indexed slot]
  simp only
  by_cases unnamed : bound.config.outputSlot = ""
  · rw [if_pos unnamed, if_neg fun writes => writes.1 unnamed]
  · rw [if_neg unnamed, NameMap.get?_insert]
    by_cases same : slot = bound.config.outputSlot
    · rw [if_pos same, if_pos ⟨unnamed, same.symm⟩]
    · rw [if_neg same, if_neg fun writes => same writes.2.symm]

/-- Making one more stage keeps the index in step. -/
theorem addStage_indexed {setup : Setup} (indexed : setup.Indexed) (registry : StageRegistry)
    (config : PipelineConfig) (declared : StageConfig) :
    (setup.addStage registry config declared).1.Indexed := by
  rw [addStage]
  cases registry.create (config.bind declared) with
  | ok stage => exact place_indexed indexed config.name _
  | error error => exact indexed

/-- Making stages keeps the index in step. -/
theorem addStages_indexed {setup : Setup} (indexed : setup.Indexed) (registry : StageRegistry)
    (config : PipelineConfig) (declared : List StageConfig) :
    (setup.addStages registry config declared).1.Indexed := by
  induction declared generalizing setup with
  | nil => exact indexed
  | cons first rest ih =>
      have added := setup.addStage_indexed indexed registry config first
      rw [addStages]
      rcases entry : setup.addStage registry config first with ⟨grown, outcome⟩
      rw [entry] at added
      cases outcome with
      | ok done => exact ih added
      | error error => exact added

/-- A stage that could be made stands behind the others, with its configuration. -/
theorem addStage_configs {setup grown : Setup} {registry : StageRegistry} {config : PipelineConfig}
    {declared : StageConfig} (made : setup.addStage registry config declared = (grown, .ok ())) :
    grown.stages.map (·.config) = setup.stages.map (·.config) ++ [config.bind declared] := by
  rw [addStage] at made
  cases created : registry.create (config.bind declared) with
  | error error =>
      rw [created] at made
      cases (Prod.mk.inj made).2
  | ok stage =>
      rw [created] at made
      obtain ⟨rfl, -⟩ := Prod.mk.inj made
      rw [place, List.map_append]
      rfl

/-- The stages that were made have the configurations that were declared. -/
theorem addStages_configs {setup grown : Setup} {registry : StageRegistry}
    {config : PipelineConfig} {declared : List StageConfig}
    (made : setup.addStages registry config declared = (grown, .ok ())) :
    grown.stages.map (·.config) =
      setup.stages.map (·.config) ++ declared.map config.bind := by
  induction declared generalizing setup with
  | nil =>
      obtain ⟨rfl, -⟩ := Prod.mk.inj made
      rw [List.map_nil, List.append_nil]
  | cons first rest ih =>
      rw [addStages] at made
      rcases entry : setup.addStage registry config first with ⟨next, outcome⟩
      rw [entry] at made
      cases outcome with
      | error error => cases (Prod.mk.inj made).2
      | ok done =>
          rw [ih made, addStage_configs entry, List.append_assoc, List.map_cons,
            List.singleton_append]

end Setup

/-! ### The parts of a pipeline -/

namespace Pipeline

/-- What a pipeline consists of when setting it up has succeeded. -/
theorem setUp_eq_ok {registry : StageRegistry} {config : PipelineConfig} {ready : Pipeline}
    (made : (setUp registry config).outcome = .ok ready) :
    ∃ setup : Setup, setup.Indexed ∧
      setup.stages.map (·.config) = config.stages.map config.bind ∧
      ready.stages = setup.stages ∧ ready.outputs = setup.outputs ∧
      ready.config = config ∧ MergePlan.compile config.merges = .ok ready.mergePlan := by
  have indexed := Setup.addStages_indexed Setup.empty_indexed registry config config.stages
  rw [setUp] at made
  split at made
  · cases made
  · rcases grown : Setup.addStages registry config {} config.stages with ⟨setup, outcome⟩
    rw [grown] at made indexed
    cases outcome with
    | error error => cases made
    | ok done =>
        cases compiled : MergePlan.compile config.merges with
        | error error =>
            rw [compiled] at made
            cases made
        | ok mergePlan =>
            rw [compiled] at made
            obtain rfl := Except.ok.inj made
            exact ⟨setup, indexed, Setup.addStages_configs grown, rfl, rfl, rfl, rfl⟩

/-- The index of a pipeline that was set up names the last stage that writes each slot. -/
theorem IsSetUp.outputIndex?_eq {pipeline : Pipeline} (ready : pipeline.IsSetUp) (slot : String) :
    pipeline.outputIndex? slot = lastWriter? pipeline.slots slot := by
  obtain ⟨expander, made⟩ := ready
  obtain ⟨setup, indexed, -, stages, outputs, -⟩ := setUp_eq_ok made
  rw [outputIndex?, slots, stages, outputs]
  exact indexed slot

/-- The stages of a pipeline that was set up have the configurations that were declared, with the
connection of the pipeline. -/
theorem IsSetUp.stageConfigs {pipeline : Pipeline} (ready : pipeline.IsSetUp) :
    pipeline.stages.map (·.config) = pipeline.config.stages.map pipeline.config.bind := by
  obtain ⟨expander, made⟩ := ready
  obtain ⟨setup, -, configs, stages, -, config, -⟩ := setUp_eq_ok made
  rw [stages, config]
  exact configs

/-- The last stage that writes the output decides whether its payload is handed back. -/
theorem IsSetUp.returnsData_eq {pipeline : Pipeline} (ready : pipeline.IsSetUp) :
    pipeline.returnsData =
      ((lastWriter? pipeline.slots pipeline.config.outputSlot).bind (pipeline.stages[·]?)).all
        (·.config.returnData) := by
  rw [returnsData, ready.outputIndex?_eq]
  cases (lastWriter? pipeline.slots pipeline.config.outputSlot).bind (pipeline.stages[·]?) with
  | none => rfl
  | some bound => rfl

/-- The merge rules of a pipeline that was set up are those of its configuration. -/
theorem IsSetUp.compiles {pipeline : Pipeline} (ready : pipeline.IsSetUp) :
    MergePlan.compile pipeline.config.merges = .ok pipeline.mergePlan := by
  obtain ⟨expander, made⟩ := ready
  obtain ⟨setup, -, -, -, -, config, compiles⟩ := setUp_eq_ok made
  rw [config]
  exact compiles

end Pipeline

/-- Merge rules make a plan exactly if there are at least two of them. -/
theorem MergePlan.compile_isSome {specs : List MergeSpec} {plan : Option MergePlan}
    (compiles : compile specs = .ok plan) : plan.isSome = decide (2 ≤ specs.length) := by
  match specs with
  | [] =>
      obtain rfl := Except.ok.inj compiles
      rfl
  | [_] =>
      obtain rfl := Except.ok.inj compiles
      rfl
  | first :: second :: rest =>
      rw [compile] at compiles
      cases rules : (second :: rest).mapM compileRule with
      | error error =>
          rw [rules] at compiles
          cases compiles
      | ok rules' =>
          rw [rules] at compiles
          obtain rfl := Except.ok.inj compiles
          simp

end DocPipeline
