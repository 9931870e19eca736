import DocPipeline.Payload.Preview

/-!
# Dumps

Records of the payloads of a run, taken where they change hands.
-/

namespace DocPipeline

/-- Where in a run a payload is recorded. -/
inductive Checkpoint where
  /-- What the caller brings. -/
  | input
  /-- What a stage is about to take. -/
  | stageInput
  /-- What a stage gives. -/
  | stageOutput
  /-- What the caller gets. -/
  | result
deriving DecidableEq, Repr

/-- The name of a checkpoint in records. -/
def Checkpoint.label : Checkpoint → String
  | .input => "input"
  | .stageInput => "stage-input"
  | .stageOutput => "stage-output"
  | .result => "result"

/-- The record of one payload. -/
structure Dump where
  pipeline : String
  checkpoint : Checkpoint
  /-- The stage that takes or gives the payload, if it is not the caller. -/
  stage : Option String
  payload : Payload
deriving DecidableEq

/-- A record as a value. -/
def Dump.toJson (dump : Dump) : Json :=
  .obj [("pipeline", .str dump.pipeline), ("checkpoint", .str dump.checkpoint.label),
    ("stage", .str (dump.stage.getD "")), ("kind", .str dump.payload.kind),
    ("message", .str dump.payload.preview)]

end DocPipeline
