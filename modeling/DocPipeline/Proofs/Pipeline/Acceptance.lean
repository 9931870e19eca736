import DocPipeline.Proofs.Document.Path
import DocPipeline.Proofs.FirstFault
import DocPipeline.Proofs.Pipeline.Setup

/-!
# Which configurations become pipelines

A configuration is usable if it has stages, if each of them can be made, and if the paths of its
merge rules can be read; the first rule needs none, and a single rule is not looked at. Usable
configurations become pipelines and no others do. Whatever else is wrong with a configuration, it is
refused with the first fault in the order of the work: no stages, then the stages one after the
other, then the merge rules, and of each rule the source path before the destination path.

## Main definitions

* `StageRegistry.Makes`, `StageRegistry.Rejects`: what becomes of the configuration of a stage.
* `MergeSpec.Usable`, `MergeSpec.Faulty`: what becomes of a merge rule.
* `PipelineConfig.Usable`, `PipelineConfig.Refused`: what becomes of a configuration.
* `PipelineConfig.Realized`: how a pipeline carries out its configuration.

## Main results

* `Setup.addStages_outcome`: making stages is working through their configurations.
* `MergePlan.compile_eq_error_iff`: which merge rules are refused.
* `Pipeline.setUp_accepts_usable`: which configurations become pipelines.
-/

namespace DocPipeline

/-! ### Stages -/

namespace StageRegistry

/-- The constructor that is registered for a configuration makes a stage of it. -/
def Makes (registry : StageRegistry) (bound : StageConfig) (stage : Stage) : Prop :=
  ∃ constructor, registry.constructors.get? bound.type = some constructor ∧
    constructor bound = .ok stage

/-- Why no stage is made of a configuration: nothing is registered for its type, or the constructor
refuses it, in its own words. -/
inductive Rejects (registry : StageRegistry) (bound : StageConfig) : ConfigurationError → Prop where
  | unknown (unregistered : registry.constructors.get? bound.type = none) :
      Rejects registry bound (.unknownStageType bound.name bound.type)
  | refused {constructor : StageConstructor} {error : ConfigurationError}
      (registered : registry.constructors.get? bound.type = some constructor)
      (refuses : constructor bound = .error error) : Rejects registry bound error

/-- A configuration of which a stage is made has a registered type. -/
theorem Makes.contains {registry : StageRegistry} {bound : StageConfig} {stage : Stage}
    (makes : registry.Makes bound stage) : registry.contains bound.type = true := by
  obtain ⟨constructor, registered, -⟩ := makes
  rw [StageRegistry.contains, NameMap.contains, registered, Option.isSome_some]

theorem create_eq_ok_iff {registry : StageRegistry} {bound : StageConfig} {stage : Stage} :
    registry.create bound = .ok stage ↔ registry.Makes bound stage := by
  rw [create, Makes]
  cases registry.constructors.get? bound.type with
  | none => exact ⟨nofun, nofun⟩
  | some constructor =>
      exact ⟨fun makes => ⟨constructor, rfl, makes⟩, fun ⟨_, same, makes⟩ => by
        obtain rfl := Option.some.inj same
        exact makes⟩

theorem exists_create_iff (registry : StageRegistry) (bound : StageConfig) :
    (∃ stage, registry.create bound = .ok stage) ↔ ∃ stage, registry.Makes bound stage :=
  exists_congr fun _ => create_eq_ok_iff

theorem create_eq_error_iff {registry : StageRegistry} {bound : StageConfig}
    {error : ConfigurationError} :
    registry.create bound = .error error ↔ registry.Rejects bound error := by
  rw [create]
  cases entry : registry.constructors.get? bound.type with
  | none =>
      constructor
      · intro fails
        obtain rfl := Except.error.inj fails
        exact .unknown entry
      · rintro (_ | ⟨registered, -⟩)
        · rfl
        · cases entry.symm.trans registered
  | some constructor =>
      constructor
      · exact .refused entry
      · rintro (unregistered | ⟨registered, refuses⟩)
        · cases entry.symm.trans unregistered
        · obtain rfl := Option.some.inj (entry.symm.trans registered)
          exact refuses

end StageRegistry

namespace Setup

/-- Making stages is working through their configurations, each with the connection of the
pipeline. -/
theorem addStages_outcome (setup : Setup) (registry : StageRegistry) (config : PipelineConfig)
    (declared : List StageConfig) :
    (setup.addStages registry config declared).2 =
      (declared.mapM fun one => registry.create (config.bind one)).map fun _ => () := by
  induction declared generalizing setup with
  | nil => rfl
  | cons first rest ih =>
      rw [addStages, addStage, List.mapM_cons]
      cases registry.create (config.bind first) with
      | error error => rfl
      | ok stage =>
          refine (ih _).trans ?_
          cases rest.mapM fun one => registry.create (config.bind one) <;> rfl

/-- All stages can be made. -/
theorem addStages_succeeds_iff {setup : Setup} {registry : StageRegistry} {config : PipelineConfig}
    {declared : List StageConfig} {done : Unit} :
    (setup.addStages registry config declared).2 = .ok done ↔
      ∀ one ∈ declared, ∃ stage, registry.Makes (config.bind one) stage := by
  rw [← exists_mapM_eq_ok_iff fun one => registry.exists_create_iff (config.bind one),
    addStages_outcome]
  cases declared.mapM fun one => registry.create (config.bind one) with
  | error error => exact ⟨nofun, nofun⟩
  | ok stages => exact ⟨fun _ => ⟨stages, rfl⟩, fun _ => rfl⟩

/-- Some stage is the first that cannot be made. -/
theorem addStages_fails_iff {setup : Setup} {registry : StageRegistry} {config : PipelineConfig}
    {declared : List StageConfig} {error : ConfigurationError} :
    (setup.addStages registry config declared).2 = .error error ↔
      FirstFault (fun one => ∃ stage, registry.Makes (config.bind one) stage)
        (fun one => registry.Rejects (config.bind one)) declared error := by
  rw [← mapM_eq_error_iff (fun one => registry.exists_create_iff (config.bind one))
    fun one _ => StageRegistry.create_eq_error_iff, addStages_outcome]
  cases declared.mapM fun one => registry.create (config.bind one) with
  | error other =>
      exact ⟨fun same => congrArg _ (Except.error.inj same),
        fun same => congrArg _ (Except.error.inj same)⟩
  | ok stages => exact ⟨nofun, nofun⟩

/-- The constructors were given the configurations of the stages, and the stages are what they
made. -/
structure Faithful (registry : StageRegistry) (setup : Setup) : Prop where
  constructed : setup.constructed = setup.stages.map (·.config)
  makes : ∀ bound ∈ setup.stages, registry.Makes bound.config bound.stage

theorem Faithful.empty (registry : StageRegistry) : Faithful registry {} where
  constructed := rfl
  makes := fun _ mem => absurd mem List.not_mem_nil

/-- Making one more stage, if it can be made. -/
theorem Faithful.addStage {registry : StageRegistry} {setup grown : Setup} {config : PipelineConfig}
    {declared : StageConfig} (faithful : setup.Faithful registry)
    (made : setup.addStage registry config declared = (grown, .ok ())) :
    grown.Faithful registry := by
  rw [Setup.addStage] at made
  cases created : registry.create (config.bind declared) with
  | error error =>
      rw [created] at made
      cases (Prod.mk.inj made).2
  | ok stage =>
      have makes := StageRegistry.create_eq_ok_iff.mp created
      rw [created] at made
      obtain ⟨rfl, -⟩ := Prod.mk.inj made
      refine ⟨?_, ?_⟩
      · rw [place, List.map_append, ← faithful.constructed]
        simp only
        rw [if_pos makes.contains, List.map_singleton]
      · exact List.forall_mem_append.mpr ⟨faithful.makes, List.forall_mem_singleton.mpr makes⟩

/-- Making stages, if all of them can be made. -/
theorem Faithful.addStages {registry : StageRegistry} {setup grown : Setup}
    {config : PipelineConfig} {declared : List StageConfig} (faithful : setup.Faithful registry)
    (made : setup.addStages registry config declared = (grown, .ok ())) :
    grown.Faithful registry := by
  induction declared generalizing setup with
  | nil =>
      obtain ⟨rfl, -⟩ := Prod.mk.inj made
      exact faithful
  | cons first rest ih =>
      rw [Setup.addStages] at made
      rcases entry : setup.addStage registry config first with ⟨next, outcome⟩
      rw [entry] at made
      cases outcome with
      | error error => cases (Prod.mk.inj made).2
      | ok done => exact ih (faithful.addStage entry) made

end Setup

/-! ### Merge rules -/

/-- A path that a merge rule gives: there is one, it is not blank, and it is in the language of
paths but for blanks at its ends. -/
inductive UsablePath : Option String → Prop where
  | intro {expression : String} (solid : Text.isBlank expression = false)
      (isPath : (Text.trim expression).toList ∈ NodePath.pathText) : UsablePath (some expression)

/-- What is wrong with a path that a merge rule for some slot should give under a name. -/
inductive BadPath (slot name : String) : Option String → ConfigurationError → Prop where
  | missing : BadPath slot name none (.missingPath slot name)
  | blank {expression : String} (isBlank : Text.isBlank expression = true) :
      BadPath slot name (some expression) (.missingPath slot name)
  | malformed {expression : String} {fault : PathFault} (solid : Text.isBlank expression = false)
      (unread : NodePath.parse expression = .error fault) :
      BadPath slot name (some expression) (.malformedPath expression fault)

/-- A merge rule with both of its paths. -/
structure MergeSpec.Usable (spec : MergeSpec) : Prop where
  source : UsablePath spec.sourcePath
  dest : UsablePath spec.destPath

/-- What is wrong with a merge rule: its source path, or else its destination path. -/
inductive MergeSpec.Faulty (spec : MergeSpec) : ConfigurationError → Prop where
  | source {error : ConfigurationError}
      (bad : BadPath spec.source "xpath-source" spec.sourcePath error) : Faulty spec error
  | dest {error : ConfigurationError} (usable : UsablePath spec.sourcePath)
      (bad : BadPath spec.source "xpath-dest" spec.destPath error) : Faulty spec error

/-- All that can be wrong with a path has one code. -/
theorem BadPath.code {slot name : String} {expression : Option String} {error : ConfigurationError}
    (bad : BadPath slot name expression error) : error.code = some "CONFIG-BAD-PATH" := by
  cases bad <;> rfl

theorem MergeSpec.Faulty.code {spec : MergeSpec} {error : ConfigurationError}
    (faulty : spec.Faulty error) : error.code = some "CONFIG-BAD-PATH" := by
  cases faulty with
  | source bad => exact bad.code
  | dest _ bad => exact bad.code

/-- The texts that are read as paths are those of the language of paths. -/
theorem NodePath.exists_compile_iff {expression : String} :
    (∃ path, compile expression = .ok path) ↔ (Text.trim expression).toList ∈ pathText := by
  rw [mem_pathText_iff]
  refine exists_congr fun path => ?_
  rw [compile_eq_ok_iff, parse_eq_ok_iff, and_comm, NodePath.toString, ← String.toList_inj,
    String.toList_ofList, eq_comm]

namespace MergePlan

theorem exists_requiredPath_iff {slot name : String} {expression : Option String} :
    (∃ path, requiredPath slot name expression = .ok path) ↔ UsablePath expression := by
  cases expression with
  | none => exact ⟨nofun, nofun⟩
  | some expression =>
      rw [requiredPath]
      cases solid : Text.isBlank expression with
      | true => exact ⟨nofun, fun | .intro usable _ => nomatch solid.symm.trans usable⟩
      | false =>
          rw [if_neg Bool.false_ne_true, NodePath.exists_compile_iff]
          exact ⟨.intro solid, fun | .intro _ isPath => isPath⟩

theorem requiredPath_eq_error_iff {slot name : String} {expression : Option String}
    {error : ConfigurationError} :
    requiredPath slot name expression = .error error ↔ BadPath slot name expression error := by
  cases expression with
  | none =>
      constructor
      · intro fails
        obtain rfl := Except.error.inj fails
        exact .missing
      · rintro ⟨⟩
        rfl
  | some expression =>
      rw [requiredPath]
      cases solid : Text.isBlank expression with
      | true =>
          rw [if_pos rfl]
          constructor
          · intro fails
            obtain rfl := Except.error.inj fails
            exact .blank solid
          · rintro (_ | _ | ⟨solid', -⟩)
            · rfl
            · cases solid.symm.trans solid'
      | false =>
          rw [if_neg Bool.false_ne_true, NodePath.compile]
          constructor
          · intro fails
            cases unread : NodePath.parse expression with
            | ok path =>
                rw [unread] at fails
                cases fails
            | error fault =>
                rw [unread] at fails
                obtain rfl := Except.error.inj fails
                exact .malformed solid unread
          · rintro (_ | blank | ⟨-, unread⟩)
            · cases solid.symm.trans blank
            · rw [unread]
              rfl

/-- A rule is read if both of its paths are. -/
theorem exists_compileRule_iff (spec : MergeSpec) :
    (∃ rule, compileRule spec = .ok rule) ↔ spec.Usable := by
  simp only [compileRule, bind_eq_ok_iff]
  constructor
  · rintro ⟨-, sourcePath, source, destPath, dest, -⟩
    exact ⟨exists_requiredPath_iff.mp ⟨sourcePath, source⟩,
      exists_requiredPath_iff.mp ⟨destPath, dest⟩⟩
  · intro usable
    obtain ⟨sourcePath, source⟩ := exists_requiredPath_iff.mpr usable.source
    obtain ⟨destPath, dest⟩ := exists_requiredPath_iff.mpr usable.dest
    exact ⟨_, sourcePath, source, destPath, dest, rfl⟩

/-- A rule is refused for its source path, or else for its destination path. -/
theorem compileRule_eq_error_iff (spec : MergeSpec) (error : ConfigurationError) :
    compileRule spec = .error error ↔ spec.Faulty error := by
  simp only [compileRule, bind_eq_error_iff, requiredPath_eq_error_iff]
  constructor
  · rintro (bad | ⟨sourcePath, source, bad | ⟨_, -, impossible⟩⟩)
    · exact .source bad
    · exact .dest (exists_requiredPath_iff.mp ⟨sourcePath, source⟩) bad
    · cases impossible
  · rintro (bad | ⟨usable, bad⟩)
    · exact .inl bad
    · obtain ⟨sourcePath, source⟩ := exists_requiredPath_iff.mpr usable
      exact .inr ⟨sourcePath, source, .inl bad⟩

/-- Which merge rules are read: those in which nothing is to be merged, and those with paths that
can be read behind the first. -/
theorem exists_compile_eq_ok_iff {specs : List MergeSpec} :
    (∃ plan, compile specs = .ok plan) ↔
      specs.length < 2 ∨ ∀ spec ∈ specs.tail, spec.Usable := by
  match specs with
  | [] => exact ⟨fun _ => .inl Nat.two_pos, fun _ => ⟨none, rfl⟩⟩
  | [_] => exact ⟨fun _ => .inl Nat.one_lt_two, fun _ => ⟨none, rfl⟩⟩
  | first :: second :: rest =>
      rw [List.tail_cons, ← exists_mapM_eq_ok_iff exists_compileRule_iff, compile]
      simp only [bind_eq_ok_iff]
      constructor
      · rintro ⟨-, rules, read, -⟩
        exact .inr ⟨rules, read⟩
      · rintro (few | ⟨rules, read⟩)
        · simp at few
        · exact ⟨_, rules, read, rfl⟩

/-- Which merge rules are refused, and why: the first rule behind the leading one that is at
fault. -/
theorem compile_eq_error_iff {specs : List MergeSpec} {error : ConfigurationError} :
    compile specs = .error error ↔
      2 ≤ specs.length ∧
        FirstFault MergeSpec.Usable MergeSpec.Faulty specs.tail error := by
  match specs with
  | [] => exact ⟨nofun, fun fails => absurd fails.1 (by decide)⟩
  | [_] => exact ⟨nofun, fun fails => absurd fails.1 (by simp)⟩
  | first :: second :: rest =>
      rw [List.tail_cons, ← mapM_eq_error_iff exists_compileRule_iff compileRule_eq_error_iff,
        compile, bind_eq_error_iff]
      constructor
      · rintro (fails | ⟨rules, -, impossible⟩)
        · exact ⟨by simp, fails⟩
        · cases impossible
      · rintro ⟨-, fails⟩
        exact .inl fails

end MergePlan

/-! ### Configurations -/

/-- A configuration that becomes a pipeline: it has stages, each of them can be made of its
configuration with the connection of the pipeline, and unless there is nothing to merge, all merge
rules behind the first have paths that can be read. -/
structure PipelineConfig.Usable (registry : StageRegistry) (config : PipelineConfig) : Prop where
  stages : config.stages ≠ []
  makes : ∀ declared ∈ config.stages, ∃ stage, registry.Makes (config.bind declared) stage
  merges : config.merges.length < 2 ∨ ∀ spec ∈ config.merges.tail, spec.Usable

/-- Why a configuration becomes no pipeline: it has no stages, or else it is the first stage that
cannot be made, or else the first merge rule behind the leading one that is at fault. -/
inductive PipelineConfig.Refused (registry : StageRegistry) (config : PipelineConfig) :
    ConfigurationError → Prop where
  | noStages (empty : config.stages = []) : Refused registry config (.noStages config.name)
  | stage {error : ConfigurationError}
      (first : FirstFault (fun declared => ∃ stage, registry.Makes (config.bind declared) stage)
        (fun declared => registry.Rejects (config.bind declared)) config.stages error) :
      Refused registry config error
  | merge {error : ConfigurationError} (stages : config.stages ≠ [])
      (makes : ∀ declared ∈ config.stages, ∃ stage, registry.Makes (config.bind declared) stage)
      (several : 2 ≤ config.merges.length)
      (first : FirstFault MergeSpec.Usable MergeSpec.Faulty config.merges.tail error) :
      Refused registry config error

/-- How a pipeline carries out its configuration. Each constructor was given one configuration, as
it was declared but for the connection, and the stages are what the constructors made. The last
stage that writes a slot is the one that the index names. -/
structure PipelineConfig.Realized (registry : StageRegistry) (config : PipelineConfig)
    (constructed : List StageConfig) (ready : Pipeline) : Prop where
  config_eq : ready.config = config
  constructed_eq : constructed = config.stages.map fun declared =>
    { declared with
      connectionName := some config.connectionName
      transacted := some config.transacted }
  configs_eq : ready.stages.map (·.config) = constructed
  makes : ∀ bound ∈ ready.stages, registry.Makes bound.config bound.stage
  outputIndex?_eq_some_iff : ∀ slot position, ready.outputIndex? slot = some position ↔
    slot ≠ "" ∧ (config.stages.map (·.outputSlot))[position]? = some slot ∧
      ∀ later, position < later → (config.stages.map (·.outputSlot))[later]? ≠ some slot

namespace Pipeline

variable {registry : StageRegistry} {config : PipelineConfig}

theorem setUp_of_no_stages (none : config.stages = []) :
    (setUp registry config).outcome = .error (.noStages config.name) := by
  rw [setUp, none, List.isEmpty_nil, if_pos rfl]

/-- Where there are stages, they are made before the merge rules are read. -/
theorem setUp_of_stages (some : config.stages ≠ []) :
    let made := Setup.addStages registry config {} config.stages
    (setUp registry config).outcome = made.2 >>= fun _ =>
      (MergePlan.compile config.merges).map fun mergePlan =>
        { config, stages := made.1.stages, outputs := made.1.outputs, mergePlan } := by
  intro made
  rw [setUp, List.isEmpty_eq_false_iff.mpr some, if_neg Bool.false_ne_true]
  rcases same : Setup.addStages registry config {} config.stages with ⟨setup, outcome⟩
  cases outcome <;> simp only [made, same] <;> rfl

/-- A pipeline has the stages that were made for it. -/
theorem setUp_state {ready : Pipeline} (made : (setUp registry config).outcome = .ok ready) :
    let state := (setUp registry config).state
    Setup.addStages registry config {} config.stages = (state, .ok ()) ∧
      ready.stages = state.stages := by
  rw [setUp] at made ⊢
  split at made
  · cases made
  · next stages =>
      rw [if_neg stages]
      rcases same : Setup.addStages registry config {} config.stages with ⟨setup, outcome⟩
      rw [same] at made
      cases outcome with
      | error error => cases made
      | ok done =>
          refine ⟨rfl, ?_⟩
          cases compiles : MergePlan.compile config.merges with
          | error error =>
              rw [compiles] at made
              cases made
          | ok plan =>
              rw [compiles] at made
              obtain rfl := Except.ok.inj made
              rfl

/-- The usable configurations become pipelines. -/
theorem exists_setUp_eq_ok_iff :
    (∃ ready, (setUp registry config).outcome = .ok ready) ↔ config.Usable registry := by
  by_cases none : config.stages = []
  · rw [setUp_of_no_stages none]
    exact ⟨nofun, fun usable => absurd none usable.stages⟩
  · simp only [setUp_of_stages none, bind_eq_ok_iff, Setup.addStages_succeeds_iff]
    constructor
    · rintro ⟨ready, -, makes, compiled⟩
      refine ⟨none, makes, MergePlan.exists_compile_eq_ok_iff.mp ?_⟩
      cases compiles : MergePlan.compile config.merges with
      | error error =>
          rw [compiles] at compiled
          cases compiled
      | ok plan => exact ⟨plan, rfl⟩
    · intro usable
      obtain ⟨plan, compiles⟩ := MergePlan.exists_compile_eq_ok_iff.mpr usable.merges
      rw [compiles]
      exact ⟨_, (), usable.makes, rfl⟩

/-- The other configurations are refused with their first fault. -/
theorem setUp_eq_error_iff {error : ConfigurationError} :
    (setUp registry config).outcome = .error error ↔ config.Refused registry error := by
  by_cases none : config.stages = []
  · rw [setUp_of_no_stages none]
    constructor
    · intro same
      obtain rfl := Except.error.inj same
      exact .noStages none
    · rintro (_ | first | ⟨some, -⟩)
      · rfl
      · rw [none] at first
        exact (not_firstFault_nil first).elim
      · exact absurd none some
  · rw [setUp_of_stages none, bind_eq_error_iff, Setup.addStages_fails_iff]
    simp only [Setup.addStages_succeeds_iff]
    -- what is made of the plan has no faults of its own
    have merges {α : Type} (next : Option MergePlan → α) :
        (MergePlan.compile config.merges).map next = .error error ↔
          MergePlan.compile config.merges = .error error := by
      cases MergePlan.compile config.merges <;> simp [Except.map]
    rw [merges, MergePlan.compile_eq_error_iff]
    constructor
    · rintro (first | ⟨-, makes, several, first⟩)
      · exact .stage first
      · exact .merge none makes several first
    · rintro (empty | first | ⟨-, makes, several, first⟩)
      · exact absurd empty none
      · exact .inl first
      · exact .inr ⟨(), makes, several, first⟩

/-- The index of a pipeline names the last stage that writes each slot, as the stages are
declared. -/
theorem outputIndex?_of_setUp {ready : Pipeline}
    (made : (setUp registry config).outcome = .ok ready) (slot : String) :
    ready.outputIndex? slot = lastWriter? (config.stages.map (·.outputSlot)) slot := by
  obtain ⟨setup, indexed, configs, -, outputs, -⟩ := setUp_eq_ok made
  have slots := congrArg (List.map (·.outputSlot)) configs
  rw [List.map_map, List.map_map] at slots
  rw [outputIndex?, outputs, indexed slot]
  exact congrArg (lastWriter? · slot) slots

/-- A pipeline carries out the configuration that it was set up from. -/
theorem realized_of_setUp {ready : Pipeline} (made : (setUp registry config).outcome = .ok ready) :
    config.Realized registry (setUp registry config).state.constructed ready := by
  obtain ⟨state, stages⟩ := setUp_state made
  obtain ⟨constructed, makes⟩ := (Setup.Faithful.empty registry).addStages state
  obtain ⟨setup, -, -, -, -, sameConfig, -⟩ := setUp_eq_ok made
  refine ⟨sameConfig, ?_, ?_, ?_, ?_⟩
  · rw [constructed, Setup.addStages_configs state]
    rfl
  · rw [constructed, stages]
  · rw [stages]
    exact makes
  · intro slot position
    rw [outputIndex?_of_setUp made, lastWriter?_eq_some_iff]

/-- **Exactly the usable configurations become pipelines.** Any other is refused with its first
fault, in the order of the work: that there are no stages, the first stage whose type is unknown or
whose constructor refuses it, the first merge rule behind the leading one whose source path or else
whose destination path is missing or malformed. A pipeline carries out its configuration: each
constructor was called once, in order, with the configuration that was declared but for the
connection, and the index names the last stage that writes each slot. -/
theorem setUp_accepts_usable (registry : StageRegistry) (config : PipelineConfig) :
    let setup := setUp registry config
    ((∃ ready, setup.outcome = .ok ready) ↔ config.Usable registry) ∧
      (∀ error, setup.outcome = .error error ↔ config.Refused registry error) ∧
      (∀ ready, setup.outcome = .ok ready →
        config.Realized registry setup.state.constructed ready) ∧
      (ConfigurationError.noStages config.name).code = some "CONFIG-EMPTY" ∧
      (∀ stage type, (ConfigurationError.unknownStageType stage type).stages = [stage] ∧
        (ConfigurationError.unknownStageType stage type).code =
          some "CONFIG-UNKNOWN-STAGE-TYPE") ∧
      ∀ spec error, MergeSpec.Faulty spec error → error.code = some "CONFIG-BAD-PATH" :=
  ⟨exists_setUp_eq_ok_iff, fun _ => setUp_eq_error_iff, fun _ => realized_of_setUp, rfl,
    fun _ _ => ⟨rfl, rfl⟩, fun _ _ => MergeSpec.Faulty.code⟩

/-- Where the first merge rule has no paths, the second has a bad destination and the third no paths
either, only the destination counts. -/
example :
    (setUp (StageRegistry.empty.register "noop" (StageRegistry.idle 0))
      { name := "p", connectionName := "db", stages := [{ name := "a", type := "noop" }]
        merges :=
          [{ source := "x" }, { source := "y", sourcePath := some "/r", destPath := some " " },
            { source := "z" }] }).outcome =
      .error (.missingPath "y" "xpath-dest") := by
  rfl

end Pipeline

end DocPipeline
