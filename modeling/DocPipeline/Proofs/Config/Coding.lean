import DocPipeline.Config.Coding
import DocPipeline.Proofs.Json.Records

/-!
# Configurations read back

A configuration that is written as a value and read again is the configuration that it was, whatever
is set in it and whatever is not. What is left out is what has no value of its own, and it is read
as just that. The one thing that does not come back is a slot for statistics that has the name of
the word for all stages together.

For each record it is told under which names its settings are found once they are written. Reading
the record back, and what is left out of it, both follow from that.

## Main definitions

* `MergeSpec.Writes`, `StageConfig.Writes`, `PipelineConfig.Writes`: where settings are found.

## Main results

* `MergeSpec.ofJson?_toJson`, `StageConfig.ofJson?_toJson`: rules and stages read back.
* `PipelineConfig.reads_back`: configurations read back, and what is left out of them.
-/

namespace DocPipeline

open Json (field? Omits Restores text_restores truth_restores)

/-! ### Words -/

/-- A direction is told from the others by its name. -/
theorem ForcedMode.ofJson?_toJson : Restores toJson ofJson? := by
  intro mode
  cases mode <;> decide

/-- A source of statistics is read back, except that a slot with the name of the word for all stages
is taken for that word. -/
theorem StatsSlot.ofJson?_toJson (stats : StatsSlot) :
    ofJson? stats.toJson = some (if stats = .slot "ALL" then .all else stats) := by
  cases stats with
  | all => rfl
  | slot name =>
      by_cases all : name = "ALL" <;>
        simp [toJson, ofJson?, Json.text?, toText, ofText, allWord, all]

/-! ### Merge rules -/

namespace MergeSpec

/-- The fields of a merge rule hold its settings. -/
structure Writes (spec : MergeSpec) (fields : List (String × Json)) : Prop where
  source : field? fields "source" = some (.str spec.source)
  sourcePath : field? fields "xpath-source" = spec.sourcePath.map .str
  destPath : field? fields "xpath-dest" = spec.destPath.map .str

theorem toJson_writes (spec : MergeSpec) :
    ∃ fields, spec.toJson = .obj fields ∧ spec.Writes fields := by
  refine ⟨_, rfl, ?_⟩
  constructor <;> simp

/-- **Merge rules read back.** -/
theorem ofJson?_toJson : Restores toJson ofJson? := by
  intro spec
  obtain ⟨fields, written, writes⟩ := spec.toJson_writes
  simp only [written, ofJson?, Json.record?, bind, Option.bind_some,
    Json.required_eq text_restores writes.source,
    Json.optional_eq text_restores nofun writes.sourcePath,
    Json.optional_eq text_restores nofun writes.destPath]

/-- What is left out of a merge rule is what it does not have. -/
theorem omits_iff (spec : MergeSpec) :
    (spec.toJson.Omits "xpath-source" ↔ spec.sourcePath = none) ∧
      (spec.toJson.Omits "xpath-dest" ↔ spec.destPath = none) := by
  obtain ⟨fields, written, writes⟩ := spec.toJson_writes
  simp [written, Json.omits_obj, writes.sourcePath, writes.destPath]

end MergeSpec

/-! ### Stages -/

namespace StageConfig

/-- The fields of a stage hold its settings. -/
structure Writes (stage : StageConfig) (fields : List (String × Json)) : Prop where
  name : field? fields "name" = some (.str stage.name)
  type : field? fields "type" = some (.str stage.type)
  mode : field? fields "mode" = some stage.mode.toJson
  transformation : field? fields "transformation" = some (.str stage.transformation)
  inputSlot : field? fields "input-data" = some (.str stage.inputSlot)
  outputSlot : field? fields "output-data" = some (.str stage.outputSlot)
  returnData : field? fields "return-data" = some (.bool stage.returnData)
  connectionName : field? fields "connection-name" = stage.connectionName.map .str
  transacted : field? fields "transacted" = stage.transacted.map .bool
  attributes : field? fields "attributes" =
    if stage.attributes.isEmpty then none else some (Json.ofMap id stage.attributes)

theorem toJson_writes (stage : StageConfig) :
    ∃ fields, stage.toJson = .obj fields ∧ stage.Writes fields := by
  refine ⟨_, rfl, ?_⟩
  constructor <;> cases stage.attributes.isEmpty <;> simp

/-- **Stages read back.** -/
theorem ofJson?_toJson : Restores toJson ofJson? := by
  intro stage
  obtain ⟨fields, written, writes⟩ := stage.toJson_writes
  simp only [written, ofJson?, Json.record?, bind, Option.bind_some,
    Json.required_eq text_restores writes.name, Json.required_eq text_restores writes.type,
    Json.orElse_eq ForcedMode.ofJson?_toJson writes.mode,
    Json.orElse_eq text_restores writes.transformation,
    Json.orElse_eq text_restores writes.inputSlot, Json.orElse_eq text_restores writes.outputSlot,
    Json.orElse_eq truth_restores writes.returnData,
    Json.optional_eq text_restores nofun writes.connectionName,
    Json.optional_eq truth_restores nofun writes.transacted,
    Json.orElse_eq_of_omitted (Json.map_restores fun _ => rfl) writes.attributes
      NameMap.isEmpty_iff.mp]

/-- What is left out of a stage is what it does not have. -/
theorem omits_iff (stage : StageConfig) :
    (stage.toJson.Omits "connection-name" ↔ stage.connectionName = none) ∧
      (stage.toJson.Omits "transacted" ↔ stage.transacted = none) ∧
      (stage.toJson.Omits "attributes" ↔ stage.attributes = .empty) := by
  obtain ⟨fields, written, writes⟩ := stage.toJson_writes
  simp [written, Json.omits_obj, writes.connectionName, writes.transacted, writes.attributes,
    NameMap.isEmpty_iff]

end StageConfig

/-! ### Pipelines -/

namespace PipelineConfig

/-- The fields of a pipeline hold its settings. -/
structure Writes (config : PipelineConfig) (fields : List (String × Json)) : Prop where
  name : field? fields "name" = some (.str config.name)
  connectionName : field? fields "connection-name" = some (.str config.connectionName)
  transacted : field? fields "transacted" = some (.bool config.transacted)
  xa : field? fields "isXA" = some (.bool config.xa)
  stages : field? fields "stages" = some (.arr (config.stages.map StageConfig.toJson))
  outputSlot : field? fields "output-data" = some (.str config.outputSlot)
  statsSlot : field? fields "output-stats" = config.statsSlot.map StatsSlot.toJson
  merges : field? fields "merges" =
    if config.merges.isEmpty then none else some (.arr (config.merges.map MergeSpec.toJson))
  vars : field? fields "variables" = some (Json.ofMap .str config.vars)
  resolving : field? fields "resolve-metadata" = some (.bool config.resolving)
  dumping : field? fields "make-dump" = some (.bool config.dumping)

theorem toJson_writes (config : PipelineConfig) :
    ∃ fields, config.toJson = .obj fields ∧ config.Writes fields := by
  refine ⟨_, rfl, ?_⟩
  constructor <;> cases config.merges.isEmpty <;> simp

/-- What is left out of a pipeline is what it does not have. -/
theorem omits_iff (config : PipelineConfig) :
    (config.toJson.Omits "output-stats" ↔ config.statsSlot = none) ∧
      (config.toJson.Omits "merges" ↔ config.merges = []) := by
  obtain ⟨fields, written, writes⟩ := config.toJson_writes
  simp [written, Json.omits_obj, writes.statsSlot, writes.merges]

/-- A source of statistics that may be left out, read back. -/
theorem optional_statsSlot {fields : List (String × Json)} {stats : Option StatsSlot}
    (found : field? fields "output-stats" = stats.map StatsSlot.toJson) :
    Json.optional fields "output-stats" StatsSlot.ofJson? =
      some (if stats = some (.slot "ALL") then some .all else stats) := by
  rw [Json.optional, found]
  cases stats with
  | none => rfl
  | some stats =>
      refine (congrArg (Option.map some) stats.ofJson?_toJson).trans ?_
      by_cases all : stats = .slot "ALL" <;> simp [all]

/-- **Configurations read back.** A configuration that is written as a value and read again comes
back with all that is set in it, except that a slot for statistics with the name of the word for all
stages is taken for that word. What is left out when it is written is what it does not have: sources
of statistics, merge rules, connections and transactions of stages, attributes, and paths of merge
rules. -/
theorem reads_back (config : PipelineConfig) :
    ofJson? config.toJson =
        some { config with
          statsSlot :=
            if config.statsSlot = some (.slot "ALL") then some .all else config.statsSlot } ∧
      (config.toJson.Omits "output-stats" ↔ config.statsSlot = none) ∧
      (config.toJson.Omits "merges" ↔ config.merges = []) ∧
      (∀ stage : StageConfig,
        (stage.toJson.Omits "connection-name" ↔ stage.connectionName = none) ∧
          (stage.toJson.Omits "transacted" ↔ stage.transacted = none) ∧
          (stage.toJson.Omits "attributes" ↔ stage.attributes = .empty)) ∧
      ∀ spec : MergeSpec,
        (spec.toJson.Omits "xpath-source" ↔ spec.sourcePath = none) ∧
          (spec.toJson.Omits "xpath-dest" ↔ spec.destPath = none) := by
  refine ⟨?_, config.omits_iff.1, config.omits_iff.2, StageConfig.omits_iff, MergeSpec.omits_iff⟩
  obtain ⟨fields, written, writes⟩ := config.toJson_writes
  simp only [written, ofJson?, Json.record?, bind, Option.bind_some,
    Json.required_eq text_restores writes.name,
    Json.required_eq text_restores writes.connectionName,
    Json.orElse_eq truth_restores writes.transacted, Json.orElse_eq truth_restores writes.xa,
    Json.orElse_eq (Json.items_restores StageConfig.ofJson?_toJson) writes.stages,
    Json.orElse_eq text_restores writes.outputSlot, optional_statsSlot writes.statsSlot,
    Json.orElse_eq_of_omitted (Json.items_restores MergeSpec.ofJson?_toJson) writes.merges
      List.isEmpty_iff.mp,
    Json.orElse_eq (Json.map_restores text_restores) writes.vars,
    Json.orElse_eq truth_restores writes.resolving, Json.orElse_eq truth_restores writes.dumping]

/-- A stage that does not return its data still does not when it is read back, though stages do
where nothing is said; the slot for statistics is lost. -/
example :
    let stages : List StageConfig := [{ name := "s", type := "t", returnData := false }]
    let config : PipelineConfig := { name := "p", connectionName := "c", stages }
    ofJson? { config with statsSlot := some (.slot "ALL") : PipelineConfig }.toJson =
      some { config with statsSlot := some .all } := by
  decide

end PipelineConfig

end DocPipeline
