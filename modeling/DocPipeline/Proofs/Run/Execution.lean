import DocPipeline.Run.Surroundings

/-!
# Programs carried out

How the value, the tokens and the trace of a program come together from those of its parts, for
programs and for programs that may fail, and what may be said of a trace without carrying the
program out: `Program.Asks kind` holds of a program all of whose requests are of some kind, whatever
the replies to the earlier ones were.

## Main results

* `Program.exec_pure`, `Program.exec_ask`, `Program.exec_then`: values, requests, and programs in a row.
* `Attempt.exec_pure`, `Attempt.exec_throw`, `Attempt.exec_ask`, `Attempt.exec_then_ok`,
  `Attempt.exec_then_error`: the same for programs that may fail; a failure ends the program.
* `Program.Asks.trace`: every request in the trace of a program is of the kind that the program asks.
-/

namespace DocPipeline

variable {α β : Type}

/-! ### Values, requests, programs in a row -/

namespace Program

variable (answer : Answerer) (tokens : TokenPool)

/-- A value asks nothing. -/
@[simp] theorem exec_pure (value : α) :
    (pure value : Program α).exec answer tokens = ⟨value, tokens, []⟩ := rfl

/-- A single request leaves its reply, and itself in the trace. -/
@[simp] theorem exec_ask (request : Request) :
    (ask request).exec answer tokens =
      ⟨(answer request tokens).1, (answer request tokens).2, [request]⟩ := rfl

/-- A request in front of a program: the rest goes on with the reply and the tokens it leaves. -/
theorem exec_step (request : Request) (next : request.Reply → Program α) :
    (step request next).exec answer tokens =
      ⟨((next (answer request tokens).1).exec answer (answer request tokens).2).value,
        ((next (answer request tokens).1).exec answer (answer request tokens).2).tokens,
        request :: ((next (answer request tokens).1).exec answer (answer request tokens).2).trace⟩ :=
  rfl

/-- `exec_bind` as it is met in programs: the second part starts with what the first leaves. -/
@[simp] theorem exec_then (program : Program α) (after : α → Program β) :
    (program >>= after).exec answer tokens =
      ⟨((after (program.exec answer tokens).value).exec answer
          (program.exec answer tokens).tokens).value,
        ((after (program.exec answer tokens).value).exec answer
          (program.exec answer tokens).tokens).tokens,
        (program.exec answer tokens).trace ++
          ((after (program.exec answer tokens).value).exec answer
            (program.exec answer tokens).tokens).trace⟩ :=
  exec_bind answer program after tokens

/-- The tokens after the requests of a trace. -/
def tokensAfter (answer : Answerer) (tokens : TokenPool) (trace : List Request) : TokenPool :=
  trace.foldl (fun tokens request => (answer request tokens).2) tokens

@[simp] theorem tokensAfter_nil : tokensAfter answer tokens [] = tokens := rfl

@[simp] theorem tokensAfter_cons (request : Request) (trace : List Request) :
    tokensAfter answer tokens (request :: trace) =
      tokensAfter answer (answer request tokens).2 trace := rfl

@[simp] theorem tokensAfter_append (first second : List Request) :
    tokensAfter answer tokens (first ++ second) =
      tokensAfter answer (tokensAfter answer tokens first) second :=
  List.foldl_append

/-- What a program leaves of the tokens can be seen from its trace. -/
theorem exec_tokens (program : Program α) :
    (program.exec answer tokens).tokens =
      tokensAfter answer tokens (program.exec answer tokens).trace := by
  induction program generalizing tokens with
  | done value => rfl
  | step request next ih => exact ih _ _

end Program

/-! ### Replies of the surroundings -/

namespace Surroundings

variable (around : Surroundings) (tokens : TokenPool)

/-- A call of the connection, and then what follows its reply. -/
theorem exec_connection (call : ConnectionCall) (after : Except DatabaseError Unit → Program β) :
    (Program.ask (.connection call) >>= after).exec around.answer tokens =
      ⟨((after (around.faults.answer call)).exec around.answer tokens).value,
        ((after (around.faults.answer call)).exec around.answer tokens).tokens,
        .connection call ::
          ((after (around.faults.answer call)).exec around.answer tokens).trace⟩ := rfl

end Surroundings

/-! ### Programs that may fail -/

namespace Attempt

variable (answer : Program.Answerer) (tokens : TokenPool)

/-- Carries out a program that may fail. -/
def exec (attempt : Attempt α) : Program.Execution (Except PipelineError α) :=
  Program.exec answer (ExceptT.run attempt) tokens

/-- A program that may fail, met within one that handles the failure. -/
@[simp] theorem exec_run (attempt : Attempt α) :
    Program.exec answer (ExceptT.run attempt) tokens = exec answer tokens attempt := rfl

/-- A value asks nothing and is no failure. -/
@[simp] theorem exec_pure (value : α) :
    exec answer tokens (pure value : Attempt α) = ⟨.ok value, tokens, []⟩ := rfl

/-- A failure asks nothing. -/
@[simp] theorem exec_throw (error : PipelineError) :
    exec answer tokens (throw error : Attempt α) = ⟨.error error, tokens, []⟩ := rfl

/-- A program that cannot fail leaves its value. -/
@[simp] theorem exec_lift (program : Program α) :
    exec answer tokens (liftM program : Attempt α) =
      ⟨.ok (program.exec answer tokens).value, (program.exec answer tokens).tokens,
        (program.exec answer tokens).trace⟩ := by
  change (program >>= fun value => pure (Except.ok value)).exec answer tokens = _
  simp

/-- A single request leaves its reply, and itself in the trace. -/
@[simp] theorem exec_ask (request : Request) :
    exec answer tokens (ask request) =
      ⟨.ok (answer request tokens).1, (answer request tokens).2, [request]⟩ :=
  exec_lift answer tokens (Program.ask request)

variable {answer tokens} {attempt : Attempt α} {between : TokenPool} {trace : List Request}
  (after : α → Attempt β)

/-- Two programs in a row of which the first succeeds. -/
theorem exec_then_ok {value : α} (first : exec answer tokens attempt = ⟨.ok value, between, trace⟩) :
    exec answer tokens (attempt >>= after) =
      ⟨(exec answer between (after value)).value, (exec answer between (after value)).tokens,
        trace ++ (exec answer between (after value)).trace⟩ := by
  change Program.exec answer (ExceptT.run attempt >>= ExceptT.bindCont after) tokens = _
  rw [Program.exec_then, exec_run, first]
  rfl

/-- Two programs in a row of which the first fails: the second asks nothing. -/
theorem exec_then_error {error : PipelineError}
    (first : exec answer tokens attempt = ⟨.error error, between, trace⟩) :
    exec answer tokens (attempt >>= after) = ⟨.error error, between, trace⟩ := by
  change Program.exec answer (ExceptT.run attempt >>= ExceptT.bindCont after) tokens = _
  rw [Program.exec_then, exec_run, first]
  exact congrArg (Program.Execution.mk _ _) (List.append_nil trace)

end Attempt

/-! ### Requests of one kind -/

namespace Program

variable {kind : Request → Prop}

/-- Every request that a program may make is of some kind, whatever is replied. -/
def Asks (kind : Request → Prop) : Program α → Prop
  | .done _ => True
  | .step request next => kind request ∧ ∀ reply, (next reply).Asks kind

namespace Asks

/-- A value asks nothing. -/
theorem pure (value : α) : (Pure.pure value : Program α).Asks kind := trivial

/-- A single request of the kind. -/
theorem ask {request : Request} (ofKind : kind request) : (Program.ask request).Asks kind :=
  ⟨ofKind, fun _ => trivial⟩

/-- Programs in a row ask what their parts ask. -/
theorem bind {program : Program α} {after : α → Program β} (first : program.Asks kind)
    (second : ∀ value, (after value).Asks kind) : (program >>= after).Asks kind := by
  induction program with
  | done value => exact second value
  | step request next ih => exact ⟨first.1, fun reply => ih reply (first.2 reply)⟩

/-- A program that asks requests of one kind asks requests of any wider kind. -/
theorem mono {program : Program α} {wider : Request → Prop} (asks : program.Asks kind)
    (widens : ∀ request, kind request → wider request) : program.Asks wider := by
  induction program with
  | done value => trivial
  | step request next ih => exact ⟨widens request asks.1, fun reply => ih reply (asks.2 reply)⟩

/-- **The trace of a program shows requests of its kind only.** -/
theorem trace {program : Program α} (asks : program.Asks kind) (answer : Answerer)
    (tokens : TokenPool) : ∀ request ∈ (program.exec answer tokens).trace, kind request := by
  induction program generalizing tokens with
  | done value =>
      intro request mem
      cases mem
  | step request next ih =>
      intro other mem
      rcases List.mem_cons.mp mem with rfl | mem
      · exact asks.1
      · exact ih _ (asks.2 _) _ other mem

end Asks

end Program

namespace Attempt

variable {kind : Request → Prop}

/-- Every request that a program may make is of some kind, whether or not the program fails. -/
def Asks (kind : Request → Prop) (attempt : Attempt α) : Prop :=
  Program.Asks kind (ExceptT.run attempt)

namespace Asks

/-- A value asks nothing. -/
theorem pure (value : α) : Asks kind (Pure.pure value : Attempt α) := trivial

/-- A failure asks nothing. -/
theorem throw (error : PipelineError) :
    Asks kind (MonadExcept.throw error : Attempt α) := trivial

/-- A program that asks requests of one kind asks requests of any wider kind. -/
theorem mono {attempt : Attempt α} {wider : Request → Prop} (asks : Asks kind attempt)
    (widens : ∀ request, kind request → wider request) : Asks wider attempt :=
  Program.Asks.mono asks widens

/-- A program that cannot fail asks the same as one that may. -/
theorem lift {program : Program α} (asks : program.Asks kind) :
    Asks kind (liftM program : Attempt α) :=
  Program.Asks.bind asks fun _ => trivial

/-- A single request of the kind. -/
theorem ask {request : Request} (ofKind : kind request) : Asks kind (Attempt.ask request) :=
  lift (Program.Asks.ask ofKind)

/-- Programs in a row ask what their parts ask. -/
theorem bind {attempt : Attempt α} {after : α → Attempt β} (first : Asks kind attempt)
    (second : ∀ value, Asks kind (after value)) : Asks kind (attempt >>= after) := by
  refine Program.Asks.bind first fun outcome => ?_
  cases outcome with
  | ok value => exact second value
  | error error => trivial

end Asks

end Attempt

end DocPipeline
