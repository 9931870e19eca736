import DocPipeline.Config.Basic
import DocPipeline.Failure
import DocPipeline.Json.Reading
import DocPipeline.Json.Writing

/-!
# Configurations as values and texts

The JSON form of configurations. Settings that are not made are left out when a configuration is
written, as are empty lists of merge rules and empty attributes; all of them have the value they
were left out for when the configuration is read.

## Main definitions

* `PipelineConfig.toJson`, `PipelineConfig.ofJson?`: configurations as values.
* `PipelineConfig.toText`, `PipelineConfig.ofText`, `PipelineConfig.ofFile`: configurations as texts
  and files.
-/

namespace DocPipeline

namespace StatsSlot

/-- The word that stands for all stages. -/
def allWord : String := "ALL"

/-- A source of statistics as a word. -/
def toText : StatsSlot → String
  | .all => allWord
  | .slot name => name

/-- The source of statistics that a word names. -/
def ofText (word : String) : StatsSlot := if word = allWord then .all else .slot word

/-- A source of statistics as a value. -/
def toJson (stats : StatsSlot) : Json := .str stats.toText

/-- The source of statistics that a value gives. -/
def ofJson? (json : Json) : Option StatsSlot := (Json.text? json).map ofText

end StatsSlot

namespace MergeSpec

/-- The fields of a merge rule, in order. -/
def fieldNames : List String := ["source", "xpath-source", "xpath-dest"]

/-- A merge rule as a value. -/
def toJson (spec : MergeSpec) : Json :=
  .obj ([("source", .str spec.source)] ++
    Json.fieldIfSome "xpath-source" .str spec.sourcePath ++
    Json.fieldIfSome "xpath-dest" .str spec.destPath)

/-- The merge rule that a value gives. -/
def ofJson? (json : Json) : Option MergeSpec := do
  let fields ← Json.record? fieldNames 1 json
  some
    { source := ← Json.required fields "source" Json.text?
      sourcePath := ← Json.optional fields "xpath-source" Json.text?
      destPath := ← Json.optional fields "xpath-dest" Json.text? }

/-- What is looked at in the text of a merge rule. -/
def shape : Json.Shape := .record (fieldNames.map (·, .everything))

end MergeSpec

namespace StageConfig

/-- The fields of a stage, in order. -/
def fieldNames : List String :=
  ["name", "type", "mode", "transformation", "input-data", "output-data", "return-data",
    "connection-name", "transacted", "attributes"]

/-- A stage as a value. -/
def toJson (stage : StageConfig) : Json :=
  .obj ([("name", .str stage.name), ("type", .str stage.type), ("mode", stage.mode.toJson),
      ("transformation", .str stage.transformation), ("input-data", .str stage.inputSlot),
      ("output-data", .str stage.outputSlot), ("return-data", .bool stage.returnData)] ++
    Json.fieldIfSome "connection-name" .str stage.connectionName ++
    Json.fieldIfSome "transacted" .bool stage.transacted ++
    if stage.attributes.isEmpty then [] else [("attributes", Json.ofMap id stage.attributes)])

/-- The stage that a value gives. -/
def ofJson? (json : Json) : Option StageConfig := do
  let fields ← Json.record? fieldNames 2 json
  some
    { name := ← Json.required fields "name" Json.text?
      type := ← Json.required fields "type" Json.text?
      mode := ← Json.orElse fields "mode" ForcedMode.ofJson? .natural
      transformation := ← Json.orElse fields "transformation" Json.text? ""
      inputSlot := ← Json.orElse fields "input-data" Json.text? ""
      outputSlot := ← Json.orElse fields "output-data" Json.text? ""
      returnData := ← Json.orElse fields "return-data" Json.truth? true
      connectionName := ← Json.optional fields "connection-name" Json.text?
      transacted := ← Json.optional fields "transacted" Json.truth?
      attributes := ← Json.orElse fields "attributes" (Json.map? some) .empty }

/-- What is looked at in the text of a stage. A mode that is an object has one field, and a field
written twice is two. -/
def shape : Json.Shape :=
  .record (fieldNames.map fun name => (name, if name = "mode" then .verbatim else .everything))

end StageConfig

namespace PipelineConfig

/-- The fields of a pipeline, in order, with what is looked at in the text of each. All values of
variables have to be texts, those that do not count as well. -/
def fieldShapes : List (String × Json.Shape) :=
  [("name", .everything), ("connection-name", .everything), ("transacted", .everything),
    ("isXA", .everything), ("stages", .list StageConfig.shape), ("output-data", .everything),
    ("output-stats", .everything), ("merges", .list MergeSpec.shape),
    ("variables", .verbatim), ("resolve-metadata", .everything), ("make-dump", .everything)]

/-- A pipeline as a value. -/
def toJson (config : PipelineConfig) : Json :=
  .obj ([("name", .str config.name), ("connection-name", .str config.connectionName),
      ("transacted", .bool config.transacted), ("isXA", .bool config.xa),
      ("stages", .arr (config.stages.map StageConfig.toJson)),
      ("output-data", .str config.outputSlot)] ++
    Json.fieldIfSome "output-stats" StatsSlot.toJson config.statsSlot ++
    (if config.merges.isEmpty then []
      else [("merges", .arr (config.merges.map MergeSpec.toJson))]) ++
    [("variables", Json.ofMap .str config.vars),
      ("resolve-metadata", .bool config.resolving), ("make-dump", .bool config.dumping)])

/-- The pipeline that a value gives. -/
def ofJson? (json : Json) : Option PipelineConfig := do
  let fields ← Json.record? (fieldShapes.map (·.1)) 2 json
  some
    { name := ← Json.required fields "name" Json.text?
      connectionName := ← Json.required fields "connection-name" Json.text?
      transacted := ← Json.orElse fields "transacted" Json.truth? false
      xa := ← Json.orElse fields "isXA" Json.truth? false
      stages := ← Json.orElse fields "stages" (Json.items? StageConfig.ofJson?) []
      outputSlot := ← Json.orElse fields "output-data" Json.text? ""
      statsSlot := ← Json.optional fields "output-stats" StatsSlot.ofJson?
      merges := ← Json.orElse fields "merges" (Json.items? MergeSpec.ofJson?) []
      vars := ← Json.orElse fields "variables" (Json.map? Json.text?) .empty
      resolving := ← Json.orElse fields "resolve-metadata" Json.truth? false
      dumping := ← Json.orElse fields "make-dump" Json.truth? false }

/-- A configuration as a text. -/
def toText (config : PipelineConfig) : String := config.toJson.toText

/-- The configuration that a text writes. -/
def ofText (text : String) : Except ConfigurationError PipelineConfig :=
  match (Json.readAs? (.record fieldShapes) text).bind ofJson? with
  | some config => .ok config
  | none => .error (.unusableConfig .unfitting)

/-- The configuration in a file, given what the file holds if it is there. -/
def ofFile (content : Option ByteArray) : Except ConfigurationError PipelineConfig :=
  match content with
  | none => .error (.unusableConfig .missingFile)
  | some bytes =>
    match String.fromUTF8? bytes with
    | none => .error (.unusableConfig .notUtf8)
    | some text => ofText text

end PipelineConfig

end DocPipeline
