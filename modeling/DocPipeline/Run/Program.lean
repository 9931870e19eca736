import DocPipeline.Cancellation
import DocPipeline.Connection
import DocPipeline.Event.Basic
import DocPipeline.Log.Dump
import DocPipeline.Log.Notice
import DocPipeline.Stage.Basic

/-!
# Programs of visible steps

A run does its work by asking others: connections, stages, a transformer, a token, and those who
watch. Each such request is a visible step, and what the run does next depends on the reply only. A
program says just that, so that it can be carried out alone, beside others, or up to a point.

## Main definitions

* `Request`, `Request.Reply`: the visible steps.
* `Program`: what is left of a run.
* `Program.exec`: a program carried out to its end, with the trace of its requests.

## Main results

* `Program.exec_bind`: carrying out two programs in a row.
-/

namespace DocPipeline

/-- What a run asks of others. -/
inductive Request where
  /-- Something is asked of a connection. -/
  | connection (call : ConnectionCall)
  /-- The token of a number is looked at. -/
  | inspect (token : Nat)
  /-- A payload is to be transformed. -/
  | transform (reference : String) (payload : Payload) (vars : Variables)
  /-- The stage at a position is to work. -/
  | operate (position : Nat) (call : StageCall)
  /-- The stage at a position is to clean up. -/
  | cleanUp (position : Nat)
  /-- Something has happened. -/
  | emit (event : Event)
  /-- Something is to be warned about. -/
  | warn (notice : Notice)
  /-- A payload is recorded. -/
  | dump (dump : Dump)
deriving DecidableEq

/-- What a request is answered with. A transformation has no answer if there is no transformer. -/
@[reducible] def Request.Reply : Request → Type
  | .connection _ => Except DatabaseError Unit
  | .inspect _ => CancellationToken
  | .transform .. => Option (Except TransformError Payload)
  | .operate .. => Except PipelineError StageResult
  | .cleanUp _ => Except PipelineError Unit
  | .emit _ | .warn _ | .dump _ => Unit

/-- A program: it is done, or it makes a request and goes on as the reply says. -/
inductive Program (α : Type) : Type where
  | done (value : α)
  | step (request : Request) (next : request.Reply → Program α)

namespace Program

variable {α β : Type}

/-- One program, and then another that depends on the value of the first. -/
def bind : Program α → (α → Program β) → Program β
  | .done value, after => after value
  | .step request next, after => .step request fun reply => (next reply).bind after

instance : Monad Program where
  pure := .done
  bind := bind

/-- The program of a single request. -/
def ask (request : Request) : Program request.Reply := .step request .done

/-- The value of a program that is done. -/
def value? : Program α → Option α
  | .done value => some value
  | .step .. => none

/-! ### Carrying out -/

/-- A way to answer requests. Tokens are all that answers can change. -/
abbrev Answerer := (request : Request) → TokenPool → request.Reply × TokenPool

/-- What is left of a program that was carried out: its value, the tokens, and its requests in
order. -/
structure Execution (α : Type) where
  value : α
  tokens : TokenPool
  trace : List Request

/-- Carries out a program. -/
def exec (answer : Answerer) : Program α → TokenPool → Execution α
  | .done value, tokens => ⟨value, tokens, []⟩
  | .step request next, tokens =>
    let (reply, tokens) := answer request tokens
    let rest := (next reply).exec answer tokens
    { rest with trace := request :: rest.trace }

/-- The trace of two programs in a row is the trace of the first and then that of the second, which
starts with the value and the tokens that the first leaves. -/
theorem exec_bind (answer : Answerer) (program : Program α) (after : α → Program β)
    (tokens : TokenPool) :
    (program.bind after).exec answer tokens =
      let first := program.exec answer tokens
      let second := (after first.value).exec answer first.tokens
      { second with trace := first.trace ++ second.trace } := by
  induction program generalizing tokens with
  | done value => simp [bind, exec]
  | step request next ih => simp [bind, exec, ih]

end Program

/-- A program that may fail. -/
abbrev Attempt := ExceptT PipelineError Program

namespace Attempt

/-- Asks a request within a program that may fail. -/
def ask (request : Request) : Attempt request.Reply := ExceptT.lift (Program.ask request)

end Attempt

end DocPipeline
