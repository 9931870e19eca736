import DocPipeline.Mode
import DocPipeline.Stage.Result

/-!
# Attributes of runs and stages

What events say about the run or the stage that they are about.

Attributes of a run that are not known are left out of the data of its events, those of a stage are
null there.
-/

namespace DocPipeline

/-- What is said about a run. -/
structure RunAttributes where
  pipeline : String
  runId : String
  mode : ExecutionMode
  connection : String
  /-- Whether the run commits and rolls back on its own account. -/
  managesCommit : Bool := false
  /-- The number of stages. -/
  stageCount : Nat := 0
  /-- How many milliseconds the run took. -/
  duration : Option Binary64 := none
  /-- Why the run failed. -/
  error : Option String := none
deriving DecidableEq, Repr

namespace RunAttributes

/-- The attributes that are always known. -/
def known (a : RunAttributes) : List (String × Json) :=
  [("pipeline", .str a.pipeline), ("run_id", .str a.runId), ("mode", a.mode.toJson),
    ("connection", .str a.connection), ("manages_commit", .bool a.managesCommit),
    ("stage_count", .int a.stageCount)]

/-- The data of an event about a run. -/
def data (a : RunAttributes) : List (String × Json) :=
  a.known ++ Json.fieldIfSome "duration_ms" .real a.duration ++
    Json.fieldIfSome "error" .str a.error

/-- Attributes as a value. -/
def toJson (a : RunAttributes) : Json :=
  .obj (a.known ++ [("duration_ms", Json.nullable .real a.duration),
    ("error", Json.nullable .str a.error)])

/-- The attributes that a value gives. -/
def ofJson? (json : Json) : Option RunAttributes := do
  let fields ← Json.record?
    ["pipeline", "run_id", "mode", "connection", "manages_commit", "stage_count", "duration_ms",
      "error"] 8 json
  some
    { pipeline := ← Json.required fields "pipeline" Json.text?
      runId := ← Json.required fields "run_id" Json.text?
      mode := ← Json.required fields "mode" ExecutionMode.ofJson?
      connection := ← Json.required fields "connection" Json.text?
      managesCommit := ← Json.required fields "manages_commit" Json.truth?
      stageCount := ← Json.required fields "stage_count" Json.size?
      duration := ← Json.optional fields "duration_ms" Json.real?
      error := ← Json.optional fields "error" Json.text? }

end RunAttributes

/-- What is said about a stage at work. -/
structure StageAttributes where
  stage : String
  /-- The position of the stage. -/
  index : Nat := 0
  /-- The name of the operation. -/
  operation : Option String := none
  inputSlot : Option String := none
  outputSlot : Option String := none
  /-- What the stage counted. -/
  counters : Option Counters := none
  /-- How many milliseconds the stage took. -/
  duration : Option Binary64 := none
deriving DecidableEq, Repr

namespace StageAttributes

/-- A slot that has a name. -/
def named (slot : String) : Option String := if slot = "" then none else some slot

/-- Attributes with slots; a slot without a name is none. -/
def withSlots (a : StageAttributes) (input output : String) : StageAttributes :=
  { a with inputSlot := named input, outputSlot := named output }

/-- The data of an event about a stage. -/
def data (a : StageAttributes) : List (String × Json) :=
  [("stage", .str a.stage), ("index", .int a.index),
    ("operation", Json.nullable .str a.operation), ("input_slot", Json.nullable .str a.inputSlot),
    ("output_slot", Json.nullable .str a.outputSlot),
    ("counters", Json.nullable Counters.toJson a.counters),
    ("duration_ms", Json.nullable .real a.duration)]

/-- Attributes as a value. -/
def toJson (a : StageAttributes) : Json := .obj a.data

/-- The attributes that a value gives. -/
def ofJson? (json : Json) : Option StageAttributes := do
  let fields ← Json.record?
    ["stage", "index", "operation", "input_slot", "output_slot", "counters", "duration_ms"] 7 json
  some
    { stage := ← Json.required fields "stage" Json.text?
      index := ← Json.required fields "index" Json.size?
      operation := ← Json.optional fields "operation" Json.text?
      inputSlot := ← Json.optional fields "input_slot" Json.text?
      outputSlot := ← Json.optional fields "output_slot" Json.text?
      counters := ← Json.optional fields "counters" Counters.ofJson?
      duration := ← Json.optional fields "duration_ms" Json.real? }

end StageAttributes

end DocPipeline
