import DocPipeline.Run.Basic

/-!
# Turns

Each stage of a pipeline has its turn in a run. Before it, the token is looked at. A stage that
writes gets a payload, transformed for it; the payload that a stage reads is transformed afterwards.
The result of a turn goes into the slot of the stage.

Runs in different modes differ in three places only: where the payload for a stage comes from, what
is made of the payload that was read, and what is kept of a report on something written.

## Main definitions

* `Run.source`, `Run.raw`, `Run.kept`: the three places.
* `Run.turn`, `Run.turns`: one turn, and all of them.
-/

namespace DocPipeline

/-- How far a run has come. -/
structure Progress where
  /-- The results in slots. -/
  store : SlotStore := .empty
  /-- The results of the turns, in order. -/
  results : List StageResult := []
deriving DecidableEq

namespace Progress

/-- Progress after one more turn. -/
def add (progress : Progress) (slot : String) (result : StageResult) : Progress where
  store := progress.store.put slot result
  results := progress.results ++ [result]

end Progress

namespace Run

/-! ### Where modes differ -/

/-- The payload for a stage that writes: what the caller brings, or, in runs that pass results on,
what is in the slot of the stage. -/
def source (run : Run) (store : SlotStore) (stage : StageConfig) : Payload :=
  match run.mode with
  | .push | .call => run.input
  | .pull | .execute => ((store.get? stage.inputSlot).map (·.payload)).getD run.input

/-- What is made of a payload that was read, before it is transformed: executing runs take texts and
bytes for the documents that they write. -/
def raw (run : Run) (payload : Payload) : Payload :=
  match run.mode with
  | .execute => payload.asDocumentOrBytes
  | .push | .pull | .call => payload

/-- What is kept of the report on something written. Executing runs keep what was sent, in place of
what a write reports and of what is reported empty. -/
def kept (run : Run) (operation : Operation) (sent : Payload) (report : StageResult) :
    StageResult :=
  match run.mode, operation with
  | .execute, .write => report.withPayload sent
  | .execute, .writeThenRead =>
    if report.payload.isEmpty then report.withPayload sent else report
  | _, _ => report

/-! ### Turns -/

/-- Stops the run in front of a stage if its token is cancelled. -/
def check (run : Run) (stage : StageConfig) : Attempt Unit := do
  let token ← Attempt.ask (.inspect run.token)
  match token.check s!"stage '{stage.name}'" with
  | .ok () => return ()
  | .error error => throw error

/-- What events say about a stage at work. -/
def stageAttributes (position : Nat) (stage : StageConfig) (operation : Operation) :
    StageAttributes :=
  { stage := stage.name, index := position, operation := some operation.token : StageAttributes
    }.withSlots stage.inputSlot stage.outputSlot

/-- Tells those who watch about a moment in the work of a stage. -/
def tellStage (position : Nat) (stage : StageConfig) (operation : Operation)
    (moment : StageMoment) : Attempt Unit :=
  Attempt.ask (.emit (.stage (stageAttributes position stage operation) moment))

/-- A payload transformed for a stage. -/
def transformed (stage : StageConfig) (payload : Payload) (vars : Variables) : Attempt Payload := do
  if Text.isBlank stage.transformation then return payload
  match ← Attempt.ask (.transform stage.transformation payload vars) with
  | some (.ok result) => return result
  | some (.error error) => throw (.transform error)
  | none =>
    throw (.transform ⟨stage.transformation,
      s!"stage '{stage.name}' needs a transformer but none is configured"⟩)

/-- Lets the stage at a position work on the connection of the run. -/
def operate (tx : Transaction) (position : Nat) (operation : Operation) (payload : Option Payload)
    (vars : Variables) : Attempt StageResult := do
  match tx.connection with
  | none => throw (.database .released)
  | some connection =>
    match ← Attempt.ask (.operate position ⟨operation, payload, vars, connection.autoCommit⟩) with
    | .ok report => return report
    | .error error => throw error

/-- The work of a turn. -/
def work (run : Run) (tx : Transaction) (vars : Variables) (store : SlotStore) (position : Nat)
    (stage : StageConfig) : Operation → Attempt StageResult
  | .write => do
      let sent ← transformed stage (run.source store stage) vars
      run.record .stageInput stage.name sent
      let report ← operate tx position .write (some sent) vars
      return run.kept .write sent report
  | .read => do
      let report ← operate tx position .read none vars
      let payload ← transformed stage (run.raw report.payload) vars
      run.record .stageOutput stage.name payload
      return report.withPayload payload
  | .writeThenRead => do
      let sent ← transformed stage (run.source store stage) vars
      run.record .stageInput stage.name sent
      let report ← operate tx position .writeThenRead (some sent) vars
      let result := run.kept .writeThenRead sent report
      run.record .stageOutput stage.name result.payload
      return result

/-- The turn of the stage at a position. -/
def turn (run : Run) (tx : Transaction) (vars : Variables) (progress : Progress) (position : Nat)
    (stage : StageConfig) : Attempt Progress := do
  let operation := run.mode.operation stage.mode
  run.check stage
  tellStage position stage operation .started
  let result ← run.work tx vars progress.store position stage operation
  tellStage position stage operation (.completed result.counters)
  return progress.add stage.outputSlot result

/-- The turns of stages from a position on. -/
def turns (run : Run) (tx : Transaction) (vars : Variables) :
    (position : Nat) → List BoundStage → Progress → Attempt Progress
  | _, [], progress => return progress
  | position, bound :: rest, progress => do
      let progress ← run.turn tx vars progress position bound.config
      run.turns tx vars (position + 1) rest progress

/-- The progress that a run begins with. Reading runs find what the caller brings in the slot that
the first stage takes its input from. -/
def beginning (run : Run) : Progress :=
  match run.mode, run.pipeline.stages with
  | .pull, first :: _ =>
    { store := SlotStore.empty.put first.config.inputSlot (.ofPayload run.input) }
  | _, _ => {}

end Run

end DocPipeline
