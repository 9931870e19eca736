import DocPipeline.Run.Outcome

/-!
# Whole runs

A run resolves its variables, asks for a connection, begins the transaction, gives every stage its
turn, concludes, and commits. If any of that fails after the connection was handed out, it rolls
back. In any case it hands the connection back and lets every stage clean up. Those who watch hear
of the beginning and of how it ended.

## Main definitions

* `Run.complete`: commit or rollback, and the connection handed back.
* `Run.carryOut`: a run between its first and its last event.
* `Run.program`: a whole run.
-/

namespace DocPipeline

namespace Run

/-- All that is done on the connection up to the commit. -/
def drive (run : Run) (tx : Transaction) (vars : Variables) : Attempt RunOutput := do
  let progress ← run.turns tx vars 0 run.pipeline.stages run.beginning
  run.conclude progress

/-- Begins the transaction and does all that is done on the connection up to the commit. -/
def perform (run : Run) (tx : Transaction) (vars : Variables) :
    Program (Except PipelineError RunOutput × Transaction) := do
  match ← tx.begin with
  | (.ok (), tx) => return (← (run.drive tx vars).run, tx)
  | (.error error, tx) => return (.error (.database error), tx)

/-- An outcome after the commit that only success asks for. -/
def committed (tx : Transaction) :
    Except PipelineError RunOutput → Program (Except PipelineError RunOutput)
  | .error error => return .error error
  | .ok output => do
      match ← tx.commit with
      | .ok () => return .ok output
      | .error error => return .error (.database error)

/-- Commits after success, rolls back after failure, of the commit as well, and hands the connection
back. -/
def complete (tx : Transaction) (outcome : Except PipelineError RunOutput) :
    Program (Except PipelineError RunOutput) := do
  let outcome ← committed tx outcome
  let tx ← match outcome with
    | .ok _ => pure tx
    | .error _ => tx.rollBack
  let _ ← tx.release
  return outcome

/-- Records what is handed back, if there is anything. -/
def recordResult (run : Run) : Except PipelineError RunOutput → Program Unit
  | .ok output =>
    match output.payload? with
    | some payload => run.record .result none payload
    | none => return ()
  | .error _ => return ()

/-- A run between its first event and cleaning up. -/
def carryOut (run : Run) : Program (Except PipelineError RunOutput) := do
  run.record .input none run.input
  match Variables.forRun run.pipeline.expander run.config.resolving run.config.vars
      run.params with
  | .error error => return .error (.configuration error)
  | .ok vars =>
    match ← Transaction.acquire run.config.connectionName run.config.transacted run.config.xa with
    | .error error => return .error (.database error)
    | .ok tx =>
      let (outcome, tx) ← run.perform tx vars
      let outcome ← complete tx outcome
      run.recordResult outcome
      return outcome

/-- Lets the stages from a position on clean up. -/
def cleanUp : (position : Nat) → List BoundStage → Program Unit
  | _, [] => return ()
  | position, bound :: rest => do
      match ← Program.ask (.cleanUp position) with
      | .ok () => pure ()
      | .error error => Program.ask (.warn (.cleanupFailed bound.config.name error))
      cleanUp (position + 1) rest

/-- The last of a run: how it ended is told, and a failure is given its place. -/
def close (run : Run) : Except PipelineError RunOutput → Program (Except RunFailure RunOutput)
  | .ok output => do
      run.tell .completed
      return .ok output
  | .error error => do
      if error.isCancelled then
        Program.ask (.warn (.runCancelled error))
        run.tell (.cancelled error)
      else
        Program.ask (.warn (.runFailed error))
        run.tell (.failed error)
      return .error ⟨run.config.name, run.id, error⟩

/-- A whole run. -/
def program (run : Run) : Program (Except RunFailure RunOutput) := do
  run.tell .started
  let outcome ← run.carryOut
  cleanUp 0 run.pipeline.stages
  run.close outcome

end Run

end DocPipeline
