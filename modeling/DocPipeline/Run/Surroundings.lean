import DocPipeline.Run.Program
import DocPipeline.Transformer

/-!
# Surroundings

Those who answer the requests of runs. Their answers depend on the request and, for tokens, on who
cancelled them; working stages may cancel tokens in turn.

## Main definitions

* `Surroundings.answer`: the answer to a request.
* `Request.connectionCall?`, `Request.stageCall?` and so on: what a request shows of each.
-/

namespace DocPipeline

/-- Those who answer the requests of runs. -/
structure Surroundings where
  faults : ConnectionFaults := {}
  transformer : Option Transformer := none
  /-- The stages by position. -/
  stages : List Stage := []

namespace Surroundings

/-- What becomes of a call where there is no stage. -/
def absent : PipelineError := .generic ["no such stage"]

/-- The answer of the stage at a position. -/
def operate (around : Surroundings) (position : Nat) (call : StageCall) : StageAnswer :=
  match around.stages[position]? with
  | some stage => stage.act call
  | none => { outcome := .error absent }

/-- What becomes of cleaning up at a position. -/
def cleanUp (around : Surroundings) (position : Nat) : Except PipelineError Unit :=
  match around.stages[position]? with
  | some stage => stage.cleanUp
  | none => .error absent

/-- The tokens after those of a list were cancelled. -/
def cancelling (tokens : TokenPool) (cancelled : List (Nat × String)) : TokenPool :=
  cancelled.foldl (fun tokens (number, reason) => tokens.cancel number reason) tokens

/-- The answer to a request, and the tokens after it. -/
def answer (around : Surroundings) : Program.Answerer
  | .connection call, tokens => (around.faults.answer call, tokens)
  | .inspect token, tokens => (tokens.get token, tokens)
  | .transform reference payload vars, tokens =>
    (around.transformer.map (·.apply reference payload vars), tokens)
  | .operate position call, tokens =>
    let answer := around.operate position call
    (answer.outcome, cancelling tokens answer.cancelling)
  | .cleanUp position, tokens => (around.cleanUp position, tokens)
  | .emit _, tokens => ((), tokens)
  | .warn _, tokens => ((), tokens)
  | .dump _, tokens => ((), tokens)

end Surroundings

/-! ### What a trace shows -/

namespace Request

/-- What is asked of a connection. -/
def connectionCall? : Request → Option ConnectionCall
  | .connection call => some call
  | _ => none

/-- What is asked of a stage, and the position of the stage. -/
def stageCall? : Request → Option (Nat × StageCall)
  | .operate position call => some (position, call)
  | _ => none

/-- The position of the stage that is asked to clean up. -/
def cleanUp? : Request → Option Nat
  | .cleanUp position => some position
  | _ => none

/-- What has happened. -/
def event? : Request → Option Event
  | .emit event => some event
  | _ => none

/-- What is warned about. -/
def notice? : Request → Option Notice
  | .warn notice => some notice
  | _ => none

/-- What is recorded. -/
def dump? : Request → Option Dump
  | .dump record => some record
  | _ => none

end Request

/-- What a trace leaves on record of connections. -/
def ConnectionLog.ofTrace (trace : List Request) : ConnectionLog :=
  .ofCalls (trace.filterMap Request.connectionCall?)

end DocPipeline
