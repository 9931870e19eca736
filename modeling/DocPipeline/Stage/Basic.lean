import DocPipeline.Mode
import DocPipeline.Stage.Result
import DocPipeline.Variables.Placeholder

/-!
# Stages

A stage is one piece of work at the database. All that it gets to know is in the call: the
operation, the payload if there is something to write, the variables of the run, and the state of
the connection. It keeps nothing from one call to the next, so that several runs can share it.

A stage may cancel tokens while it works.
-/

namespace DocPipeline

/-- What a stage is asked to do. -/
structure StageCall where
  operation : Operation
  /-- What is to be written; none if the stage only reads. -/
  payload : Option Payload
  /-- The variables of the run. -/
  vars : Variables
  /-- Whether the connection commits every statement on its own. -/
  autoCommit : Bool
deriving DecidableEq

/-- What becomes of a call. -/
structure StageAnswer where
  outcome : Except PipelineError StageResult
  /-- The tokens, by number, that the stage cancels on the way, with its reasons. -/
  cancelling : List (Nat × String) := []

/-- A stage. -/
structure Stage where
  /-- Stages with one identity are one stage. -/
  identity : Nat
  name : String
  /-- The work of the stage. -/
  act : StageCall → StageAnswer
  /-- What becomes of cleaning up at the end of a run. -/
  cleanUp : Except PipelineError Unit := .ok ()

namespace Stage

/-- A stage that does nothing and counts nothing. -/
def idle (identity : Nat) (name : String) : Stage where
  identity := identity
  name := name
  act _ := { outcome := .ok .nothing }

end Stage

end DocPipeline
