import DocPipeline.Pipeline.Setup
import DocPipeline.Proofs.Run.Conclusion

/-!
# The stages in a run

What a run asks of its stages. The stages are called in the order of their positions, once each, and
a failure ends that; when all the rest is done, every stage cleans up.

The steps of a run that can fail stand in one order: the variables, the connection, the transaction,
then turn by turn the token, and the transformation and the work of the stage, the transformation
first where the stage writes and last where it only reads, then the merge, and the commit. Which
stages are called can be told from the steps up to the first failure.

## Main definitions

* `stageCallsOf`, `cleanUpsOf`: the stages in a trace.
* `reached`, `operations`: the steps up to the first failure.
* `Run.hurdles`: the steps of a run that can fail, in order.

## Main results

* `Run.stageCallsOf_requestsUpToFailure`: the calls of stages in a list of turns.
* `Run.program_stages`: the calls of stages in a run, and where its stages clean up.
-/

namespace DocPipeline

/-! ### Stages in a trace -/

/-- The calls of stages that a trace shows. -/
def stageCallsOf (trace : List Request) : List (Nat × StageCall) :=
  trace.filterMap Request.stageCall?

/-- The positions of the stages that a trace shows cleaning up. -/
def cleanUpsOf (trace : List Request) : List Nat := trace.filterMap Request.cleanUp?

@[simp] theorem stageCallsOf_nil : stageCallsOf [] = [] := rfl

@[simp] theorem cleanUpsOf_nil : cleanUpsOf [] = [] := rfl

@[simp] theorem stageCallsOf_cons (request : Request) (trace : List Request) :
    stageCallsOf (request :: trace) = request.stageCall?.toList ++ stageCallsOf trace := by
  rw [stageCallsOf, List.filterMap_cons]
  cases request.stageCall? <;> rfl

@[simp] theorem cleanUpsOf_cons (request : Request) (trace : List Request) :
    cleanUpsOf (request :: trace) = request.cleanUp?.toList ++ cleanUpsOf trace := by
  rw [cleanUpsOf, List.filterMap_cons]
  cases request.cleanUp? <;> rfl

@[simp] theorem stageCallsOf_append (first second : List Request) :
    stageCallsOf (first ++ second) = stageCallsOf first ++ stageCallsOf second :=
  List.filterMap_append

@[simp] theorem cleanUpsOf_append (first second : List Request) :
    cleanUpsOf (first ++ second) = cleanUpsOf first ++ cleanUpsOf second :=
  List.filterMap_append

/-- A request that asks nothing of a stage. -/
def Request.SparesStages (request : Request) : Prop :=
  request.stageCall? = none ∧ request.cleanUp? = none

/-- Remarks ask nothing of a stage. -/
theorem Request.IsRemark.sparesStages (request : Request) (remark : request.IsRemark) :
    request.SparesStages := by
  cases request with
  | connection call => exact ⟨rfl, rfl⟩
  | inspect token => exact ⟨rfl, rfl⟩
  | transform reference payload vars => exact ⟨rfl, rfl⟩
  | operate position call => cases remark
  | cleanUp position => cases remark
  | emit event => exact ⟨rfl, rfl⟩
  | warn notice => exact ⟨rfl, rfl⟩
  | dump record => exact ⟨rfl, rfl⟩

/-- So do notes. -/
theorem Request.IsNote.sparesStages (request : Request) (note : request.IsNote) :
    request.SparesStages :=
  Request.IsRemark.sparesStages request (note.isRemark request)

/-- A request that settles a run: a call of the connection, or a warning about one. -/
def Request.Settles : Request → Prop
  | .connection _ | .warn _ => True
  | _ => False

/-- Settling a run asks nothing of a stage. -/
theorem Request.Settles.sparesStages (request : Request) (settles : request.Settles) :
    request.SparesStages := by
  cases request with
  | connection call => exact ⟨rfl, rfl⟩
  | warn notice => exact ⟨rfl, rfl⟩
  | _ => cases settles

/-- A trace of requests that spare the stages shows nothing of them. -/
theorem stageCallsOf_eq_nil {trace : List Request}
    (spares : ∀ request ∈ trace, request.SparesStages) : stageCallsOf trace = [] :=
  List.filterMap_eq_nil_iff.mpr fun request mem => (spares request mem).1

theorem cleanUpsOf_eq_nil {trace : List Request}
    (spares : ∀ request ∈ trace, request.SparesStages) : cleanUpsOf trace = [] :=
  List.filterMap_eq_nil_iff.mpr fun request mem => (spares request mem).2

/-- A program that spares the stages shows nothing of them. -/
theorem Program.Asks.spared {α : Type} {program : Program α}
    (spares : program.Asks Request.SparesStages) (answer : Answerer) (tokens : TokenPool) :
    stageCallsOf (program.exec answer tokens).trace = [] ∧
      cleanUpsOf (program.exec answer tokens).trace = [] :=
  ⟨stageCallsOf_eq_nil (spares.trace answer tokens), cleanUpsOf_eq_nil (spares.trace answer tokens)⟩

/-! ### Steps up to the first failure -/

/-- The steps up to the first one that fails, that one included. -/
def reached : List Hurdle → List Hurdle
  | [] => []
  | hurdle :: rest => hurdle :: if hurdle.failure.isNone then reached rest else []

theorem reached_append (first second : List Hurdle) :
    reached (first ++ second) =
      reached first ++ if (firstFailure first).isNone then reached second else [] := by
  induction first with
  | nil => rfl
  | cons hurdle first ih =>
      rw [List.cons_append, reached, reached, ih, firstFailure_cons]
      cases hurdle.failure with
      | none => simp
      | some error => simp

/-- Whether a step is the work of a stage. -/
def RunStep.isOperation : RunStep → Bool
  | .operate _ => true
  | _ => false

/-- How many stages are called up to the first failure. -/
def operations (hurdles : List Hurdle) : Nat := (reached hurdles).countP (·.step.isOperation)

@[simp] theorem operations_nil : operations [] = 0 := rfl

@[simp] theorem operations_cons (hurdle : Hurdle) (rest : List Hurdle) :
    operations (hurdle :: rest) =
      (if hurdle.step.isOperation then 1 else 0) +
        if hurdle.failure.isNone then operations rest else 0 := by
  rw [operations, reached, List.countP_cons, Nat.add_comm]
  cases hurdle.failure with
  | none => rfl
  | some error => rfl

/-- No stage is called where no step is the work of one. -/
theorem operations_eq_zero {hurdles : List Hurdle}
    (others : ∀ hurdle ∈ hurdles, hurdle.step.isOperation = false) : operations hurdles = 0 := by
  induction hurdles with
  | nil => rfl
  | cons hurdle rest ih =>
      rw [operations_cons, others hurdle List.mem_cons_self,
        ih fun other mem => others other (List.mem_cons_of_mem _ mem)]
      simp

theorem operations_append (first second : List Hurdle) :
    operations (first ++ second) =
      operations first + if (firstFailure first).isNone then operations second else 0 := by
  rw [operations, reached_append, List.countP_append]
  cases firstFailure first with
  | none => rfl
  | some error => rfl

/-! ### Turns -/

/-- A turn calls its stage once, or fails before. -/
theorem Account.operations_hurdles (account : Account) :
    operations account.hurdles ≤ 1 ∧ (account.failure = none → operations account.hurdles = 1) := by
  rw [failure, hurdles, work]
  cases account.checked with
  | error error => simp [operations, reached, RunStep.isOperation]
  | ok done =>
      cases account.call.operation <;> cases account.transformed <;> cases account.report <;>
        simp [operations, reached, RunStep.isOperation]

/-- A stage that writes is called only if the payload for it could be transformed. -/
theorem Account.transformed_of_called (account : Account) (writes : account.call.operation ≠ .read)
    (called : operations account.hurdles = 1) : ∃ payload, account.transformed = .ok payload := by
  cases transforms : account.transformed with
  | ok payload => exact ⟨payload, rfl⟩
  | error error =>
      rw [hurdles, work, transforms] at called
      cases operation : account.call.operation with
      | read => exact absurd operation writes
      | write => simp [operation, RunStep.isOperation] at called
      | writeThenRead => simp [operation, RunStep.isOperation] at called

/-- Turns call as many stages as there are turns, or fewer if one of them fails. -/
theorem operations_flatMap_hurdles (accounts : List Account) :
    operations (accounts.flatMap Account.hurdles) ≤ accounts.length ∧
      (firstFailure (accounts.flatMap Account.hurdles) = none →
        operations (accounts.flatMap Account.hurdles) = accounts.length) := by
  induction accounts with
  | nil => exact ⟨Nat.le_refl 0, fun _ => rfl⟩
  | cons account rest ih =>
      obtain ⟨atMostOne, one⟩ := account.operations_hurdles
      rw [List.flatMap_cons, operations_append, firstFailure_append, ← Account.failure,
        List.length_cons]
      cases fails : account.failure with
      | none =>
          have := one fails
          simp only [Option.isNone_none, reduceIte, Option.none_or]
          exact ⟨by omega, fun succeeds => by have := ih.2 succeeds; omega⟩
      | some error =>
          simp only [Option.isNone_some, Bool.false_eq_true, reduceIte, Option.some_or]
          exact ⟨by omega, fun succeeds => by cases succeeds⟩

namespace Run

variable (run : Run) (around : Surroundings) (vars : Variables) (tokens : TokenPool)

theorem recordRequests_spares (checkpoint : Checkpoint) (stage : Option String)
    (payload : Payload) :
    ∀ request ∈ run.recordRequests checkpoint stage payload, request.SparesStages := by
  intro request mem
  rw [recordRequests] at mem
  split at mem
  · rw [List.mem_singleton.mp mem]
    exact ⟨rfl, rfl⟩
  · cases mem

theorem transformRequests_spares (stage : StageConfig) (payload : Payload) :
    ∀ request ∈ transformRequests vars stage payload, request.SparesStages := by
  intro request mem
  rw [transformRequests] at mem
  split at mem
  · cases mem
  · rw [List.mem_singleton.mp mem]
    exact ⟨rfl, rfl⟩

/-- The calls in a turn: the one of its stage, if the turn gets as far. -/
theorem stageCallsOf_requestsOf (account : Account) :
    stageCallsOf (run.requestsOf account) =
      [(account.position, account.call)].take (operations account.hurdles) := by
  have recorded (checkpoint : Checkpoint) (stage : Option String) (payload : Payload) :=
    stageCallsOf_eq_nil (run.recordRequests_spares checkpoint stage payload)
  have transformed :=
    stageCallsOf_eq_nil (transformRequests_spares account.call.vars account.stage account.given)
  rw [requestsOf, workRequests, Account.failure, Account.hurdles, Account.work]
  cases account.checked with
  | error error => simp [operations, reached, RunStep.isOperation, Request.stageCall?]
  | ok done =>
      cases account.call.operation <;> cases account.transformed <;> cases account.report <;>
        simp [operations, reached, RunStep.isOperation, Request.stageCall?, recorded, transformed]

/-- No stage cleans up in a turn. -/
theorem cleanUpsOf_requestsOf (account : Account) : cleanUpsOf (run.requestsOf account) = [] := by
  have recorded (checkpoint : Checkpoint) (stage : Option String) (payload : Payload) :=
    cleanUpsOf_eq_nil (run.recordRequests_spares checkpoint stage payload)
  have transformed :=
    cleanUpsOf_eq_nil (transformRequests_spares account.call.vars account.stage account.given)
  rw [requestsOf, workRequests, Account.failure, Account.hurdles, Account.work]
  cases account.checked with
  | error error => simp [Request.cleanUp?]
  | ok done =>
      cases account.call.operation <;> cases account.transformed <;> cases account.report <;>
        simp [Request.cleanUp?, recorded, transformed]

/-- The calls in a list of turns: those of the stages up to the first failure. -/
theorem stageCallsOf_requestsUpToFailure (accounts : List Account) :
    stageCallsOf (run.requestsUpToFailure accounts) =
      (accounts.map fun account => (account.position, account.call)).take
        (operations (accounts.flatMap Account.hurdles)) := by
  induction accounts with
  | nil => rfl
  | cons account rest ih =>
      obtain ⟨atMostOne, one⟩ := account.operations_hurdles
      rw [requestsUpToFailure, stageCallsOf_append, stageCallsOf_requestsOf, List.flatMap_cons,
        operations_append, ← Account.failure]
      cases fails : account.failure with
      | none =>
          simp [one fails, ih, Nat.add_comm 1]
      | some error =>
          obtain none | one : operations account.hurdles = 0 ∨ operations account.hurdles = 1 := by
            omega
          · simp [none]
          · simp [one]

theorem cleanUpsOf_requestsUpToFailure (accounts : List Account) :
    cleanUpsOf (run.requestsUpToFailure accounts) = [] := by
  induction accounts with
  | nil => rfl
  | cons account rest ih =>
      rw [requestsUpToFailure, cleanUpsOf_append, cleanUpsOf_requestsOf, List.nil_append]
      split
      · exact ih
      · rfl

/-! ### What stands around the turns -/

/-- The commit is a call of the connection. -/
theorem committed_asks (tx : Transaction) (outcome : Except PipelineError RunOutput) :
    (committed tx outcome).Asks Request.Settles := by
  cases outcome with
  | error error => exact .pure _
  | ok output =>
      refine .bind ?_ fun result => ?_
      · rw [Transaction.commit]
        split
        · split
          · exact .pure _
          · exact .ask trivial
        · exact .pure _
      · cases result with
        | ok done => exact .pure _
        | error error => exact .pure _

/-- The rollback is a call of the connection, and a warning if that fails. -/
theorem rollBack_asks (tx : Transaction) : tx.rollBack.Asks Request.Settles := by
  rw [Transaction.rollBack]
  split
  · split
    · exact .bind (.ask trivial) fun _ => .pure _
    · refine .bind (.ask trivial) fun result => ?_
      cases result with
      | ok done => exact .bind (.pure ()) fun _ => .pure _
      | error error => exact .bind (.ask trivial) fun _ => .pure _
  · exact .pure _

/-- The release is a call of the connection, and a warning if that fails. -/
theorem release_asks (tx : Transaction) : tx.release.Asks Request.Settles := by
  rw [Transaction.release]
  split
  · exact .pure _
  · refine .bind (.ask trivial) fun result => ?_
    cases result with
    | ok done => exact .bind (.pure ()) fun _ => .pure _
    | error error => exact .bind (.ask trivial) fun _ => .pure _

/-- What settles a run is asked of the connection, and nothing else but warnings. -/
theorem complete_asks (tx : Transaction) (outcome : Except PipelineError RunOutput) :
    (complete tx outcome).Asks Request.Settles := by
  refine .bind (committed_asks tx outcome) fun outcome => ?_
  cases outcome with
  | ok output => exact .bind (.pure tx) fun tx => .bind (release_asks tx) fun _ => .pure _
  | error error =>
      exact .bind (rollBack_asks tx) fun tx => .bind (release_asks tx) fun _ => .pure _

/-! ### Whole runs -/

/-- The variables of a run; none if they cannot be resolved. -/
def bindings : Variables := run.resolved.toOption.getD .empty

theorem bindings_of_resolved {vars : Variables} (resolves : run.resolved = .ok vars) :
    run.bindings = vars := by
  rw [bindings, resolves]
  rfl

/-- The accounts of the turns of a run. -/
abbrev turnAccounts : List Account := run.accounts around run.bindings tokens

/-- The progress of a run in which nothing fails. -/
def finished : Progress := run.beginning.through (run.turnAccounts around tokens)

/-- What becomes of the commit of a run. -/
def closed : Except DatabaseError Unit :=
  if run.config.managesCommit then around.faults.answer .commit else .ok ()

/-- The steps of a run before its first turn. -/
def opening : List Hurdle :=
  [⟨.resolve, PipelineError.of? (run.resolved.mapError .configuration)⟩,
    ⟨.acquire, PipelineError.of?
      ((around.faults.answer (.acquire run.config.connectionName)).mapError .database)⟩,
    ⟨.begin, PipelineError.of? ((run.begun around).mapError .database)⟩]

/-- The steps of a run behind its last turn. -/
def ending : List Hurdle :=
  [⟨.merge, run.mergeFailure (run.finished around tokens).store⟩,
    ⟨.commit, PipelineError.of? ((run.closed around).mapError .database)⟩]

/-- The steps of a run that can fail, in order. -/
def hurdles : List Hurdle :=
  run.opening around ++ (run.turnAccounts around tokens).flatMap Account.hurdles ++
    run.ending around tokens

/-- A run comes to its first turn if it has its variables and its connection, and the transaction
begins. -/
theorem firstFailure_opening_eq_none_iff :
    firstFailure (run.opening around) = none ↔
      run.resolved = .ok run.bindings ∧
        around.faults.answer (.acquire run.config.connectionName) = .ok () ∧
        run.begun around = .ok () := by
  rw [opening, bindings]
  cases run.resolved with
  | error error => simp
  | ok vars =>
      cases around.faults.answer (.acquire run.config.connectionName) with
      | error error => simp
      | ok done =>
          cases run.begun around with
          | error error => simp
          | ok done => simp [Except.toOption]

/-- The stages are called in the turns alone. -/
theorem operations_hurdles :
    operations (run.hurdles around tokens) =
      if firstFailure (run.opening around) = none then
        operations ((run.turnAccounts around tokens).flatMap Account.hurdles)
      else 0 := by
  have before : operations (run.opening around) = 0 :=
    operations_eq_zero (by simp [opening, RunStep.isOperation])
  have after : operations (run.ending around tokens) = 0 :=
    operations_eq_zero (by simp [ending, RunStep.isOperation])
  rw [hurdles, List.append_assoc, operations_append, operations_append, before, after]
  simp

/-- The calls of stages in the work of a run. -/
theorem drive_stages :
    let execution := Attempt.exec around.answer tokens (run.drive run.transaction vars)
    let accounts := run.accounts around vars tokens
    stageCallsOf execution.trace =
        (accounts.map fun account => (account.position, account.call)).take
          (operations (accounts.flatMap Account.hurdles)) ∧
      cleanUpsOf execution.trace = [] := by
  obtain ⟨-, trace⟩ := run.turns_exec around vars tokens 0 run.pipeline.stages run.beginning
  rcases done : Attempt.exec around.answer tokens
    (run.turns run.transaction vars 0 run.pipeline.stages run.beginning) with
    ⟨outcome, between, requests⟩
  rw [done] at trace
  obtain rfl : requests = run.requestsUpToFailure (run.accounts around vars tokens) := trace
  have calls := run.stageCallsOf_requestsUpToFailure (run.accounts around vars tokens)
  have cleans := run.cleanUpsOf_requestsUpToFailure (run.accounts around vars tokens)
  rw [drive]
  cases outcome with
  | error error =>
      rw [Attempt.exec_then_error _ done]
      exact ⟨calls, cleans⟩
  | ok progress =>
      have spared := ((run.conclude_asks progress).mono Request.IsNote.sparesStages).spared
        around.answer between
      rw [Attempt.exec_run] at spared
      rw [Attempt.exec_then_ok _ done]
      simp only [stageCallsOf_append, cleanUpsOf_append, spared, List.append_nil]
      exact ⟨calls, cleans⟩

/-- Beginning the transaction asks nothing of a stage. -/
theorem beginRequests_spares : ∀ request ∈ run.beginRequests, request.SparesStages := by
  intro request mem
  rw [beginRequests] at mem
  split at mem
  · rw [List.mem_singleton.mp mem]
    exact ⟨rfl, rfl⟩
  · cases mem

/-- The calls of stages in the work of a run on its connection. -/
theorem perform_stages (vars : Variables) :
    let trace := ((run.perform run.handedOut vars).exec around.answer tokens).trace
    let accounts := run.accounts around vars tokens
    stageCallsOf trace =
        (if (run.begun around).isOk then
          (accounts.map fun account => (account.position, account.call)).take
            (operations (accounts.flatMap Account.hurdles))
        else []) ∧
      cleanUpsOf trace = [] := by
  have calls := stageCallsOf_eq_nil run.beginRequests_spares
  have cleans := cleanUpsOf_eq_nil run.beginRequests_spares
  obtain ⟨driven, cleansDriven⟩ := run.drive_stages around vars tokens
  rw [perform_exec]
  cases run.begun around with
  | error error => exact ⟨calls, cleans⟩
  | ok done =>
      simp only [stageCallsOf_append, cleanUpsOf_append, calls, cleans, driven, cleansDriven]
      exact ⟨rfl, rfl⟩

/-- The calls of stages in a run, up to where it is told how it ends. -/
theorem carryOut_stages :
    let trace := (run.carryOut.exec around.answer tokens).trace
    stageCallsOf trace =
        ((run.turnAccounts around tokens).map fun account =>
          (account.position, account.call)).take (operations (run.hurdles around tokens)) ∧
      cleanUpsOf trace = [] := by
  have recorded := ((run.record_asks .input none run.input).mono
    Request.IsNote.sparesStages).spared around.answer tokens
  have sameTokens := run.record_tokens around tokens .input none run.input
  rw [operations_hurdles, opening, turnAccounts, bindings]
  rw [carryOut, Program.exec_then, sameTokens, ← resolved]
  cases run.resolved with
  | error error => simp [recorded]
  | ok vars =>
      have performed := run.perform_stages around tokens vars
      simp only [Program.exec_then, run.acquire_exec]
      cases around.faults.answer (.acquire run.config.connectionName) with
      | error error => simp [recorded, Except.map, Request.stageCall?, Request.cleanUp?]
      | ok done =>
          have completed := fun tx outcome tokens =>
            ((complete_asks tx outcome).mono Request.Settles.sparesStages).spared around.answer
              tokens
          have resultRecorded := fun outcome tokens =>
            ((run.recordResult_asks outcome).mono Request.IsNote.sparesStages).spared
              around.answer tokens
          simp only [Except.map, Program.exec_then, Program.exec_pure, stageCallsOf_append,
            cleanUpsOf_append, stageCallsOf_cons, cleanUpsOf_cons, recorded, performed, completed,
            resultRecorded]
          cases run.begun around with
          | error error =>
              simp [Except.isOk, Except.toBool, Request.stageCall?, Request.cleanUp?]
          | ok done =>
              simp [Except.isOk, Except.toBool, Except.toOption, Request.stageCall?,
                Request.cleanUp?]

/-! ### Cleaning up -/

/-- Cleaning up is asked of every stage, in order, and of nobody else. -/
theorem cleanUp_stages (position : Nat) (stages : List BoundStage) :
    let trace := ((cleanUp position stages).exec around.answer tokens).trace
    stageCallsOf trace = [] ∧ cleanUpsOf trace = List.range' position stages.length := by
  induction stages generalizing position tokens with
  | nil => exact ⟨rfl, rfl⟩
  | cons bound rest ih =>
      obtain ⟨calls, cleans⟩ := ih tokens (position + 1)
      rw [cleanUp, Program.exec_then, Program.exec_ask, List.length_cons, List.range'_succ]
      simp only [Surroundings.answer]
      cases around.cleanUp position with
      | ok done => simp [Request.stageCall?, Request.cleanUp?, calls, cleans]
      | error error =>
          have warned : (Program.ask (.warn (.cleanupFailed bound.config.name error))).exec
            around.answer tokens = ⟨(), tokens, [.warn (.cleanupFailed bound.config.name error)]⟩ :=
            rfl
          simp [warned, Request.stageCall?, Request.cleanUp?, calls, cleans]

/-- **The stages in a run**: each is called in its turn, as far as the run comes without a failure,
and at the very end all of them clean up. -/
theorem program_stages :
    let trace := (run.program.exec around.answer tokens).trace
    stageCallsOf trace =
        ((run.turnAccounts around tokens).map fun account =>
          (account.position, account.call)).take (operations (run.hurdles around tokens)) ∧
      ∃ before after, trace = before ++ after ∧ cleanUpsOf before = [] ∧
        stageCallsOf after = [] ∧ callsOf after = [] ∧
        cleanUpsOf after = List.range run.pipeline.stages.length := by
  obtain ⟨calls, cleans⟩ := run.carryOut_stages around tokens
  have told : (run.tell .started).exec around.answer tokens =
      ⟨(), tokens, [.emit (.run run.attributes .started)]⟩ := rfl
  rw [program, Program.exec_then, told, Program.exec_then, Program.exec_then]
  generalize run.carryOut.exec around.answer tokens = carried at *
  have noCalls := ((cleanUp_asks 0 run.pipeline.stages).mono
    Request.TidiesUp.sparesConnection).callsOf_eq_nil around.answer carried.tokens
  obtain ⟨noStages, cleanUps⟩ := cleanUp_stages around carried.tokens 0 run.pipeline.stages
  generalize (cleanUp 0 run.pipeline.stages).exec around.answer carried.tokens = cleaned at *
  have closing := run.close_asks carried.value
  have closingCalls := (closing.mono Request.IsRemark.sparesConnection).callsOf_eq_nil
    around.answer cleaned.tokens
  have closingStages := (closing.mono Request.IsRemark.sparesStages).spared around.answer
    cleaned.tokens
  generalize (run.close carried.value).exec around.answer cleaned.tokens = closed at *
  refine ⟨?_, .emit (.run run.attributes .started) :: carried.trace,
    cleaned.trace ++ closed.trace, rfl, ?_, ?_, ?_, ?_⟩
  · simp [Request.stageCall?, calls, noStages, closingStages]
  · simp [Request.cleanUp?, cleans]
  · simp [noStages, closingStages]
  · simp [noCalls, closingCalls]
  · simp [cleanUps, closingStages, List.range_eq_range']

/-- Every stage cleans up once in a run, in order. -/
theorem program_cleanUps :
    cleanUpsOf (run.program.exec around.answer tokens).trace =
      List.range run.pipeline.stages.length := by
  obtain ⟨-, before, after, split, none, -, -, all⟩ := run.program_stages around tokens
  rw [split, cleanUpsOf_append, none, all, List.nil_append]

/-! ### A run of two stages -/

/-- Two stages, of which the second takes what the first leaves, with a note. -/
def relayConfig : PipelineConfig where
  name := "relay"
  connectionName := "main"
  transacted := true
  stages :=
    [{ name := "first", type := "idle", mode := .toDatabase, outputSlot := "a" },
      { name := "second", type := "idle", transformation := "note", inputSlot := "a",
        outputSlot := "b" }]
  outputSlot := "b"
  statsSlot := some (.slot "a")

/-- A run that hands a text from one stage to the other. -/
def relay : Run where
  pipeline :=
    { config := relayConfig
      stages := relayConfig.stages.map fun declared =>
        ⟨relayConfig.bind declared, .idle 0 declared.name⟩
      outputs := NameMap.empty.insert "a" 0 |>.insert "b" 1
      mergePlan := none }
  id := "1"
  mode := .execute
  input := .text "order"
  token := 0

end Run

end DocPipeline
