import DocPipeline.Stage.Result

/-!
# Run outputs

What a run hands back: nothing when it only writes, a payload when it reads, a stage result when it
reports.
-/

namespace DocPipeline

/-- What a run hands back. -/
inductive RunOutput where
  | nothing
  | payload (content : Payload)
  | result (report : StageResult)
deriving DecidableEq

namespace RunOutput

/-- The payload of an output, if it carries one. -/
def payload? : RunOutput → Option Payload
  | .nothing => none
  | .payload content => some content
  | .result report => some report.payload

/-- The stage result of an output, if it is one. -/
def result? : RunOutput → Option StageResult
  | .result report => some report
  | _ => none

/-- An output as a value. -/
def toJson : RunOutput → Json
  | .nothing => .obj [("kind", .str "nothing")]
  | .payload content => .obj [("kind", .str "payload"), ("value", content.toJson)]
  | .result report => .obj [("kind", .str "result"), ("value", report.toJson)]

/-- The output that a value gives. -/
def ofJson? (json : Json) : Option RunOutput := do
  let (kind, value) ← Json.tagged? "kind" "value" json
  if kind = "nothing" then
    match value with
    | none | some .null => some .nothing
    | some _ => none
  else if kind = "payload" then (value.bind Payload.ofJson?).map .payload
  else if kind = "result" then (value.bind StageResult.ofJson?).map .result
  else none

end RunOutput

end DocPipeline
