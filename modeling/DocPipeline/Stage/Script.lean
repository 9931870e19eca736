import DocPipeline.Failure.Stated
import DocPipeline.Stage.Basic

/-!
# Scripted stages

Stages whose behaviour is written down in advance, for trying pipelines out, and a stage that
reports what it is called with.

## Main definitions

* `StageScript`, `StageScript.stage`: a stage that follows a script.
* `StageScript.raisingStage`: one that moreover fails after its work is done.
* `Stage.probe`: a stage that reports its calls.
-/

namespace DocPipeline

/-- What a stage is to do. -/
structure StageScript where
  name : String
  /-- What the stage gives for each operation. -/
  results : Operation → StageResult := fun _ => .nothing
  /-- The operation that the stage fails on. -/
  failOn : Option Operation := none
  /-- Whether cleaning up fails. -/
  failCleanup : Bool := false
  /-- Why the stage cancels its token, if it does so, at every call. -/
  cancel : Option String := none
  /-- The operation after which the stage fails though its work is done, and how. -/
  raise : Option (Operation × PipelineError) := none

namespace StageScript

/-- The operation of a value. -/
def operation? (json : Json) : Option Operation := (Json.text? json).bind Operation.ofToken?

/-- The operation after which a stage fails, and how. -/
def raise? (json : Json) : Option (Operation × PipelineError) := do
  let fields ← Json.fields? json
  let operation ← Json.required fields "on" operation?
  let error ← Json.required fields "error" PipelineError.stated?
  some (operation, error)

/-- The script that a value gives. -/
def ofJson? (json : Json) : Option StageScript := do
  let fields ← Json.fields? json
  let result (operation : Operation) :=
    (Json.optional fields operation.token StageResult.ofJson?).map (·.getD .nothing)
  let write ← result .write
  let read ← result .read
  let writeThenRead ← result .writeThenRead
  some
    { name := ← Json.required fields "name" Json.text?
      results := fun
        | .write => write
        | .read => read
        | .writeThenRead => writeThenRead
      failOn := ← Json.optional fields "fail_on" operation?
      failCleanup := ← Json.orElse fields "fail_cleanup" Json.truth? false
      cancel := ← Json.optional fields "cancel" Json.text?
      raise := ← Json.optional fields "raise" raise? }

/-- The failure that a script asks for on an operation. -/
def failure (script : StageScript) (operation : Operation) : PipelineError :=
  .database { reason := s!"stage '{script.name}' scripted {operation.title} failure" }

/-- What becomes of cleaning up. -/
def cleanUp (script : StageScript) : Except PipelineError Unit :=
  if script.failCleanup then
    .error (.generic [s!"stage '{script.name}' scripted cleanup failure"])
  else .ok ()

/-- What becomes of an operation. -/
def outcome (script : StageScript) (operation : Operation) : Except PipelineError StageResult :=
  if script.failOn = some operation then .error (script.failure operation)
  else .ok (script.results operation)

/-- What becomes of an operation that may fail after the work is done. -/
def raisingOutcome (script : StageScript) (operation : Operation) :
    Except PipelineError StageResult := do
  let result ← script.outcome operation
  match script.raise with
  | some (on, error) => if on = operation then .error error else .ok result
  | none => .ok result

/-- The stage that follows a script. Whatever it cancels, it cancels under the number `token`. -/
def stage (script : StageScript) (identity token : Nat) : Stage where
  identity := identity
  name := script.name
  act call :=
    { outcome := script.outcome call.operation
      cancelling := script.cancel.toList.map (token, ·) }
  cleanUp := script.cleanUp

/-- The stage that follows a script and fails where the script says so though the work is done. -/
def raisingStage (script : StageScript) (identity token : Nat) : Stage :=
  { script.stage identity token with
    act := fun call =>
      { outcome := script.raisingOutcome call.operation
        cancelling := script.cancel.toList.map (token, ·) } }

end StageScript

namespace Stage

/-- A report of one call. -/
def probeReport (name : String) (call : StageCall) : String :=
  let input := (call.payload.map Payload.kind).getD "none"
  s!"<probe stage=\"{name}\" op=\"{call.operation.token}\" input=\"{input}\" " ++
    s!"auto=\"{call.autoCommit}\" vars=\"{call.vars.size}\"/>"

/-- A stage that reports what it is called with, as one record read. -/
def probe (identity : Nat) (name : String) : Stage where
  identity := identity
  name := name
  act call :=
    { outcome := .ok
        { payload := .text (probeReport name call), counters := { read := 1, total := 1 } } }

end Stage

end DocPipeline
