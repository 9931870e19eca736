import DocPipeline.Proofs.Run.Events

/-!
# What the records of a run show

A run that is to record its payloads records what the caller brings before anything else. Then it
records each payload that a stage is called with, in front of the call, and each payload that is
kept of a stage that gives one, once its turn has come to its end; what a stage keeps that only
writes is not recorded. Last comes what is handed back, if anything is. Other runs record nothing.

## Main definitions

* `dumpsOf`: the records in a trace.
* `Run.inputDump?`, `Run.outputDump?`: the records that belong to a call of a stage, and to its
  result; `Run.inputDumps`, `Run.outputDumps`: those of many.
* `Run.Recorded`: what the records of a run show.

## Main results

* `Run.dumpsOf_requestsOf`: the records of a turn.
* `Run.program_dumps`: the records of a run.
* `Run.dumps_show_payloads`: what the records of a run show.
-/

namespace DocPipeline

/-! ### Records in a trace -/

/-- The records of payloads that a trace shows. -/
def dumpsOf (trace : List Request) : List Dump := trace.filterMap Request.dump?

@[simp] theorem dumpsOf_nil : dumpsOf [] = [] := rfl

@[simp] theorem dumpsOf_cons (request : Request) (trace : List Request) :
    dumpsOf (request :: trace) = request.dump?.toList ++ dumpsOf trace := by
  rw [dumpsOf, List.filterMap_cons]
  cases request.dump? <;> rfl

@[simp] theorem dumpsOf_append (first second : List Request) :
    dumpsOf (first ++ second) = dumpsOf first ++ dumpsOf second :=
  List.filterMap_append

/-- The records of a trace at one checkpoint. -/
def dumpsAt (checkpoint : Checkpoint) (trace : List Request) : List Dump :=
  (dumpsOf trace).filter (·.checkpoint = checkpoint)

theorem dumpsAt_append (checkpoint : Checkpoint) (first second : List Request) :
    dumpsAt checkpoint (first ++ second) =
      dumpsAt checkpoint first ++ dumpsAt checkpoint second := by
  rw [dumpsAt, dumpsOf_append, List.filter_append, ← dumpsAt, ← dumpsAt]

/-- All records at a checkpoint are found there, and none of them at another. -/
theorem filter_checkpoint_eq_self {checkpoint : Checkpoint} {dumps : List Dump}
    (here : ∀ dump ∈ dumps, dump.checkpoint = checkpoint) :
    dumps.filter (·.checkpoint = checkpoint) = dumps :=
  List.filter_eq_self.mpr fun dump mem => decide_eq_true (here dump mem)

theorem filter_checkpoint_eq_nil {checkpoint other : Checkpoint} (differ : other ≠ checkpoint)
    {dumps : List Dump} (there : ∀ dump ∈ dumps, dump.checkpoint = other) :
    dumps.filter (·.checkpoint = checkpoint) = [] :=
  List.filter_eq_nil_iff.mpr fun dump mem here =>
    differ ((there dump mem).symm.trans (of_decide_eq_true here))

/-- A request that records no payload. -/
def Request.RecordsNothing (request : Request) : Prop := request.dump? = none

theorem Request.Settles.recordsNothing (request : Request) (settles : request.Settles) :
    request.RecordsNothing := by
  cases request with
  | connection call => rfl
  | warn notice => rfl
  | _ => cases settles

theorem Request.TidiesUp.recordsNothing (request : Request) (tidies : request.TidiesUp) :
    request.RecordsNothing := by
  cases request with
  | cleanUp position => rfl
  | warn notice => rfl
  | _ => cases tidies

/-- A program that records no payload shows no record. -/
theorem Program.Asks.dumpsOf_eq_nil {α : Type} {program : Program α}
    (nothing : program.Asks Request.RecordsNothing) (answer : Answerer) (tokens : TokenPool) :
    dumpsOf (program.exec answer tokens).trace = [] :=
  List.filterMap_eq_nil_iff.mpr (nothing.trace answer tokens)

namespace Run

/-! ### Parts of a run that record nothing -/

section Unrecorded

open Attempt

variable (run : Run)

theorem outputOf_recordsNothing (store : SlotStore) :
    (run.outputOf store).Asks Request.RecordsNothing := by
  rw [outputOf]
  split
  · exact .pure _
  · exact .bind (.ask rfl) fun _ => .pure _

theorem withStatistics_recordsNothing (progress : Progress) (output : StageResult) :
    (run.withStatistics progress output).Asks Request.RecordsNothing := by
  rw [withStatistics]
  split
  · exact .pure _
  · exact .pure _
  · split
    · exact .pure _
    · split
      · exact .pure _
      · exact .bind (.ask rfl) fun _ => .pure _

theorem report_recordsNothing (progress : Progress) :
    Asks Request.RecordsNothing (run.report progress) := by
  refine .bind (.lift (run.outputOf_recordsNothing _)) fun output => ?_
  refine .bind (.lift (run.withStatistics_recordsNothing progress output)) fun output => ?_
  refine .bind ?_ fun output => .pure _
  rw [withMerged]
  split
  · exact .pure _
  · exact .bind (merged_asks _ _) fun payload => .pure _

/-- The conclusion of a run may warn, but it records nothing. -/
theorem conclude_recordsNothing (progress : Progress) :
    Asks Request.RecordsNothing (run.conclude progress) := by
  rw [conclude]
  split
  · exact .pure _
  · split
    · exact .bind (merged_asks _ _) fun payload => .pure _
    · exact .bind (.lift (run.outputOf_recordsNothing _)) fun output => .pure _
  · exact .bind (.lift (run.outputOf_recordsNothing _)) fun output => .pure _
  · exact .bind (run.report_recordsNothing progress) fun result => .pure _

/-- Nor does closing it. -/
theorem close_recordsNothing (result : Except PipelineError RunOutput) :
    (run.close result).Asks Request.RecordsNothing := by
  cases result with
  | ok output => exact .bind (.ask rfl) fun _ => .pure _
  | error error =>
      rw [close]
      split
      · exact .bind (.ask rfl) fun _ => .bind (.ask rfl) fun _ => .pure _
      · exact .bind (.ask rfl) fun _ => .bind (.ask rfl) fun _ => .pure _

theorem dumpsOf_beginRequests : dumpsOf run.beginRequests = [] := by
  rw [beginRequests]
  split <;> rfl

theorem dumpsOf_transformRequests (vars : Variables) (stage : StageConfig) (payload : Payload) :
    dumpsOf (transformRequests vars stage payload) = [] := by
  rw [transformRequests]
  split <;> rfl

end Unrecorded

variable (run : Run) (around : Surroundings) (vars : Variables) (tokens : TokenPool)

/-! ### The records of turns -/

/-- The record of what a stage is called with; there is none if it only reads. -/
def inputDump? (position : Nat) (call : StageCall) : Option Dump :=
  call.payload.map fun payload =>
    { pipeline := run.config.name
      checkpoint := .stageInput
      stage := (run.pipeline.stages[position]?).map (·.config.name)
      payload }

/-- The records of what stages are called with, in order. -/
def inputDumps (calls : List (Nat × StageCall)) : List Dump :=
  calls.filterMap fun (position, call) => run.inputDump? position call

theorem inputDumps_append (first second : List (Nat × StageCall)) :
    run.inputDumps (first ++ second) = run.inputDumps first ++ run.inputDumps second :=
  List.filterMap_append

/-- The record of what is kept of a stage; there is none if it only writes. -/
def outputDump? (position : Nat) (result : StageResult) : Option Dump :=
  (run.pipeline.stages[position]?).bind fun bound =>
    if run.mode.operation bound.config.mode = .write then none
    else some
      { pipeline := run.config.name
        checkpoint := .stageOutput
        stage := some bound.config.name
        payload := result.payload }

/-- The records of what is kept of the stages from the first on, in order. -/
def outputDumps (results : List StageResult) : List Dump :=
  results.zipIdx.filterMap fun (result, position) => run.outputDump? position result

/-- An account shows what its stage, which is one of the run, is called with, and what is kept of
it. -/
structure Shows (account : Account) : Prop where
  stage : ∃ bound, run.pipeline.stages[account.position]? = some bound ∧
    bound.config = account.stage
  operation : account.call.operation = run.mode.operation account.stage.mode
  reads : account.call.operation = .read → account.call.payload = none ∧
    ∀ payload, account.transformed = .ok payload → account.result.payload = payload
  sends : account.call.operation ≠ .read →
    ∀ payload, account.transformed = .ok payload → account.call.payload = some payload

/-- What is kept of a stage that reads is what was read, transformed. -/
theorem account_reads (store : SlotStore) (position : Nat) (stage : StageConfig)
    (reads : (run.account around vars store tokens position stage).call.operation = .read) :
    let account := run.account around vars store tokens position stage
    account.call.payload = none ∧
      ∀ payload, account.transformed = .ok payload → account.result.payload = payload := by
  intro account
  rw [account_operation] at reads
  simp only [account]
  rw [Run.account.eq_def]
  split
  · refine ⟨rfl, fun payload transforms => ?_⟩
    simp only at transforms ⊢
    rw [transforms]
    rfl
  · next writes => exact absurd reads writes

/-- The turns of a run have such accounts. -/
theorem shows_of_mem {account : Account} (mem : account ∈ run.accounts around vars tokens) :
    run.Shows account := by
  obtain ⟨index, found⟩ := List.mem_iff_getElem?.mp mem
  obtain ⟨bound, between, present, rfl⟩ :=
    run.accountsFrom_getElem? around vars tokens run.beginning found
  refine ⟨⟨bound, ?_, account_stage .. |>.symm⟩, ?_,
    fun reads => run.account_reads _ _ _ _ _ _ reads, fun writes payload transforms => ?_⟩
  · rw [account_position, Nat.zero_add, present]
  · rw [account_operation, account_stage]
  · rw [account_operation] at writes
    obtain ⟨-, calls, -⟩ := run.account_of_write around vars between _ _ bound.config writes
    rw [calls, transforms]
    rfl

/-- **The records of a turn**: what its stage is called with, if it is called, and what is kept of
it, if the turn ends well. -/
theorem dumpsOf_requestsOf (dumping : run.config.dumping = true) {account : Account}
    (shown : run.Shows account) :
    dumpsOf (run.requestsOf account) =
      run.inputDumps (stageCallsOf (run.requestsOf account)) ++
        if account.failure.isNone then (run.outputDump? account.position account.result).toList
        else [] := by
  obtain ⟨⟨bound, present, same⟩, operation, reads, sends⟩ := shown
  have record (checkpoint : Checkpoint) (stage : Option String) (payload : Payload) :
      run.recordRequests checkpoint stage payload =
        [.dump ⟨run.config.name, checkpoint, stage, payload⟩] := if_pos dumping
  have transforming := dumpsOf_transformRequests account.call.vars account.stage account.given
  rw [stageCallsOf_requestsOf, outputDump?, present, Option.bind_some, same, ← operation,
    requestsOf, workRequests, Account.failure, Account.hurdles, Account.work]
  cases checked : account.checked with
  | error error => simp [operations, reached, RunStep.isOperation, Request.dump?, inputDumps]
  | ok done =>
      -- what is sent is recorded before the call and what is kept behind it, so that a failure on
      -- the way leaves out the latter only
      cases performs : account.call.operation with
      | read =>
          obtain ⟨nothing, keeps⟩ := reads performs
          cases account.report with
          | error error =>
              simp [operations, reached, RunStep.isOperation, Request.dump?, inputDumps,
                inputDump?, nothing]
          | ok report =>
              cases transforms : account.transformed with
              | error error =>
                  simp [operations, reached, RunStep.isOperation, Request.dump?, transforming,
                    inputDumps, inputDump?, nothing]
              | ok payload =>
                  simp [operations, reached, RunStep.isOperation, Request.dump?, transforming,
                    record, inputDumps, inputDump?, nothing, keeps payload transforms]
      | write | writeThenRead =>
          cases transforms : account.transformed with
          | error error =>
              simp [operations, reached, RunStep.isOperation, Request.dump?, transforming,
                inputDumps]
          | ok sent =>
              have sending := sends (by rw [performs]; decide) sent transforms
              cases account.report <;>
                simp [operations, reached, RunStep.isOperation, Request.dump?, transforming,
                  record, inputDumps, inputDump?, sending, present, same]

/-- What is recorded in front of a call. -/
theorem checkpoint_of_inputDump? {position : Nat} {call : StageCall} {dump : Dump}
    (recorded : run.inputDump? position call = some dump) : dump.checkpoint = .stageInput := by
  obtain ⟨payload, -, rfl⟩ := Option.map_eq_some_iff.mp recorded
  rfl

/-- What is recorded at the end of a turn. -/
theorem checkpoint_of_outputDump? {position : Nat} {result : StageResult} {dump : Dump}
    (recorded : run.outputDump? position result = some dump) : dump.checkpoint = .stageOutput := by
  obtain ⟨bound, -, recorded⟩ := Option.bind_eq_some_iff.mp recorded
  split at recorded
  · cases recorded
  · obtain rfl := Option.some.inj recorded
    rfl

/-- The records in a trace: those at two checkpoints, `inputs` at the one and `outputs` at the
other. -/
structure Records (trace : List Request) (inputs outputs : List Dump) : Prop where
  inputs_eq : dumpsAt .stageInput trace = inputs
  outputs_eq : dumpsAt .stageOutput trace = outputs
  both : ∀ dump ∈ dumpsOf trace, dump.checkpoint = .stageInput ∨ dump.checkpoint = .stageOutput

theorem Records.append {first second : List Request} {inputs more outputs moreOutputs : List Dump}
    (before : Records first inputs outputs) (behind : Records second more moreOutputs) :
    Records (first ++ second) (inputs ++ more) (outputs ++ moreOutputs) where
  inputs_eq := by rw [dumpsAt_append, before.inputs_eq, behind.inputs_eq]
  outputs_eq := by rw [dumpsAt_append, before.outputs_eq, behind.outputs_eq]
  both := by
    rw [dumpsOf_append]
    exact List.forall_mem_append.mpr ⟨before.both, behind.both⟩

/-- Records that stand first at the one checkpoint and then at the other. -/
theorem Records.of_append {trace : List Request} {inputs outputs : List Dump}
    (records : dumpsOf trace = inputs ++ outputs)
    (atInput : ∀ dump ∈ inputs, dump.checkpoint = .stageInput)
    (atOutput : ∀ dump ∈ outputs, dump.checkpoint = .stageOutput) :
    Records trace inputs outputs := by
  have differ : Checkpoint.stageOutput ≠ .stageInput := nofun
  constructor
  · rw [dumpsAt, records, List.filter_append, filter_checkpoint_eq_self atInput,
      filter_checkpoint_eq_nil differ atOutput, List.append_nil]
  · rw [dumpsAt, records, List.filter_append, filter_checkpoint_eq_nil differ.symm atInput,
      filter_checkpoint_eq_self atOutput, List.nil_append]
  · rw [records]
    exact List.forall_mem_append.mpr
      ⟨fun dump mem => .inl (atInput dump mem), fun dump mem => .inr (atOutput dump mem)⟩

/-- The records of a turn, by checkpoint. -/
theorem records_requestsOf (dumping : run.config.dumping = true) {account : Account}
    (shown : run.Shows account) :
    Records (run.requestsOf account) (run.inputDumps (stageCallsOf (run.requestsOf account)))
      (if account.failure.isNone then (run.outputDump? account.position account.result).toList
        else []) := by
  refine .of_append (run.dumpsOf_requestsOf dumping shown) (fun dump mem => ?_) fun dump mem => ?_
  · obtain ⟨⟨position, call⟩, -, recorded⟩ := List.mem_filterMap.mp mem
    exact run.checkpoint_of_inputDump? recorded
  · split at mem
    · exact run.checkpoint_of_outputDump? (Option.mem_toList.mp mem)
    · cases mem

/-- **The records of a list of turns**, by checkpoint: what the stages are called with, and what is
kept of those whose turns end well. -/
theorem records_requestsUpToFailure (dumping : run.config.dumping = true)
    {accounts : List Account} (shown : ∀ account ∈ accounts, run.Shows account) :
    Records (run.requestsUpToFailure accounts)
      (run.inputDumps (stageCallsOf (run.requestsUpToFailure accounts)))
      ((completedTurns accounts).filterMap fun account =>
        run.outputDump? account.position account.result) := by
  induction accounts with
  | nil => exact ⟨rfl, rfl, nofun⟩
  | cons account rest ih =>
      obtain ⟨first, later⟩ := List.forall_mem_cons.mp shown
      have turn := run.records_requestsOf dumping first
      rw [requestsUpToFailure, stageCallsOf_append, inputDumps_append, completedTurns,
        List.takeWhile_cons]
      cases fails : account.failure with
      | none =>
          rw [fails] at turn
          have both := turn.append (ih later)
          rw [completedTurns] at both
          simp only [Option.isNone_none, reduceIte, List.filterMap_cons] at both ⊢
          cases recorded : run.outputDump? account.position account.result <;>
            simpa [recorded] using both
      | some error =>
          rw [fails] at turn
          have nothing : run.inputDumps [] = [] := rfl
          simpa [nothing] using turn

/-! ### Whole runs -/

/-- The requests that recording what is handed back takes. -/
def resultRequests : Except PipelineError RunOutput → List Request
  | .ok output => (output.payload?.map (run.recordRequests .result none)).getD []
  | .error _ => []

theorem recordResult_exec (result : Except PipelineError RunOutput) :
    (run.recordResult result).exec around.answer tokens =
      ⟨(), tokens, run.resultRequests result⟩ := by
  cases result with
  | error error => rfl
  | ok output =>
      rw [recordResult, resultRequests]
      cases output.payload? with
      | none => rfl
      | some payload => exact run.record_exec around tokens .result none payload

/-- The records of the work of a run are those of its turns. -/
theorem drive_dumps :
    dumpsOf (Attempt.exec around.answer tokens (run.drive run.transaction vars)).trace =
      dumpsOf (run.requestsUpToFailure (run.accounts around vars tokens)) := by
  obtain ⟨-, trace⟩ := run.turns_exec around vars tokens 0 run.pipeline.stages run.beginning
  rcases done : Attempt.exec around.answer tokens
    (run.turns run.transaction vars 0 run.pipeline.stages run.beginning) with
    ⟨outcome, between, requests⟩
  rw [done] at trace
  obtain rfl : requests = run.requestsUpToFailure (run.accounts around vars tokens) := trace
  rw [drive]
  cases outcome with
  | error error => rw [Attempt.exec_then_error _ done]
  | ok progress =>
      have nothing := (run.conclude_recordsNothing progress).dumpsOf_eq_nil around.answer between
      rw [Attempt.exec_run] at nothing
      rw [Attempt.exec_then_ok _ done, dumpsOf_append, nothing, List.append_nil]

/-- The records of the work of a run on its connection. -/
theorem perform_dumps :
    dumpsOf ((run.perform run.handedOut vars).exec around.answer tokens).trace =
      if (run.begun around).isOk then
        dumpsOf (run.requestsUpToFailure (run.accounts around vars tokens))
      else [] := by
  rw [perform_exec]
  cases run.begun around with
  | error error => exact run.dumpsOf_beginRequests
  | ok done =>
      simp only [dumpsOf_append, dumpsOf_beginRequests, drive_dumps]
      rfl

/-- The records of a run between its first and its last event. -/
theorem carryOut_dumps :
    let carried := run.carryOut.exec around.answer tokens
    dumpsOf carried.trace =
      dumpsOf (run.recordRequests .input none run.input) ++
        dumpsOf (run.requestsUpToFailure (run.comingTurns around tokens)) ++
        dumpsOf (run.resultRequests carried.value) := by
  intro carried
  have recorded := run.record_exec around tokens .input none run.input
  simp only [carried]
  rw [comingTurns, opening, turnAccounts, bindings]
  rw [carryOut, Program.exec_then, recorded, ← resolved]
  cases run.resolved with
  | error error => simp [requestsUpToFailure, resultRequests]
  | ok vars =>
      have performed := run.perform_dumps around vars tokens
      simp only [Program.exec_then, run.acquire_exec]
      cases around.faults.answer (.acquire run.config.connectionName) with
      | error error => simp [requestsUpToFailure, resultRequests, Except.map, Request.dump?]
      | ok done =>
          have completed := fun tx outcome tokens =>
            ((complete_asks tx outcome).mono Request.Settles.recordsNothing).dumpsOf_eq_nil
              around.answer tokens
          simp only [Except.map, Program.exec_then, Program.exec_pure, dumpsOf_append,
            dumpsOf_cons, performed, completed, recordResult_exec]
          cases run.begun around with
          | error error =>
              simp [Except.isOk, Except.toBool, Request.dump?, requestsUpToFailure]
          | ok done => simp [Except.isOk, Except.toBool, Except.toOption, Request.dump?]

/-- **The records of a run**: what the caller brings, those of its turns, and what is handed
back. -/
theorem program_dumps :
    dumpsOf (run.program.exec around.answer tokens).trace =
      dumpsOf (run.recordRequests .input none run.input) ++
        dumpsOf (run.requestsUpToFailure (run.comingTurns around tokens)) ++
        dumpsOf (run.resultRequests (run.carryOut.exec around.answer tokens).value) := by
  have told : (run.tell .started).exec around.answer tokens =
      ⟨(), tokens, [.emit (.run run.attributes .started)]⟩ := rfl
  have cleaned := ((cleanUp_asks 0 run.pipeline.stages).mono
    Request.TidiesUp.recordsNothing).dumpsOf_eq_nil around.answer
  have closed := fun result =>
    (run.close_recordsNothing result).dumpsOf_eq_nil around.answer
  rw [program, Program.exec_then, told, Program.exec_then, Program.exec_then]
  simp [carryOut_dumps, cleaned, closed, Request.dump?]

/-- The calls of stages in a run are those of its turns. -/
theorem program_calls :
    stageCallsOf (run.program.exec around.answer tokens).trace =
      stageCallsOf (run.requestsUpToFailure (run.comingTurns around tokens)) := by
  rw [(run.program_stages around tokens).1, operations_hurdles, comingTurns]
  split
  · rw [stageCallsOf_requestsUpToFailure]
  · rw [List.take_zero, requestsUpToFailure, stageCallsOf_nil]

/-- A run without records makes no requests to record payloads. -/
theorem recordRequests_of_not_dumping (quiet : run.config.dumping = false)
    (checkpoint : Checkpoint) (stage : Option String) (payload : Payload) :
    run.recordRequests checkpoint stage payload = [] := by
  rw [recordRequests, quiet, if_neg Bool.false_ne_true]

/-- Its turns show no record. -/
theorem dumpsOf_turns_of_not_dumping (quiet : run.config.dumping = false)
    (accounts : List Account) : dumpsOf (run.requestsUpToFailure accounts) = [] := by
  induction accounts with
  | nil => rfl
  | cons account rest ih =>
      have turn : dumpsOf (run.requestsOf account) = [] := by
        rw [requestsOf, workRequests]
        cases account.checked with
        | error error => rfl
        | ok done =>
            cases account.call.operation <;> cases account.transformed <;>
              cases account.report <;> cases account.failure <;>
                simp [dumpsOf_transformRequests, Request.dump?,
                  run.recordRequests_of_not_dumping quiet]
      rw [requestsUpToFailure, dumpsOf_append, turn, List.nil_append]
      split
      · exact ih
      · rfl

/-- Nor does the whole of it. -/
theorem dumps_of_not_dumping (quiet : run.config.dumping = false) :
    dumpsOf (run.program.exec around.answer tokens).trace = [] := by
  have result (value : Except PipelineError RunOutput) :
      dumpsOf (run.resultRequests value) = [] := by
    cases value with
    | error error => rfl
    | ok output =>
        rw [resultRequests]
        cases output.payload? with
        | none => rfl
        | some payload =>
            rw [Option.map_some, Option.getD_some, run.recordRequests_of_not_dumping quiet]
            rfl
  rw [program_dumps, run.recordRequests_of_not_dumping quiet,
    run.dumpsOf_turns_of_not_dumping quiet, result]
  rfl

end Run

/-! ### What is recorded -/

/-- An event tells that a stage has completed. -/
def Event.isCompletion : Event → Bool
  | .stage _ (.completed _) => true
  | _ => false

namespace Run

variable (run : Run) (around : Surroundings) (tokens : TokenPool)

/-- The record of what a run hands back, if it hands back anything. -/
def resultDumps : Except RunFailure RunOutput → List Dump
  | .ok output => (output.payload?.map fun payload =>
      { pipeline := run.config.name, checkpoint := .result, stage := none, payload }).toList
  | .error _ => []

/-- What the records of a run show, where `results` is what was kept of the stages that have
completed. -/
structure Recorded (results : List StageResult) : Prop where
  /-- First comes what the caller brings, last what is handed back, and what belongs to the stages
  stands between. -/
  shape : ∃ between,
    dumpsOf (run.program.exec around.answer tokens).trace =
      { pipeline := run.config.name, checkpoint := .input, stage := none, payload := run.input } ::
        (between ++ run.resultDumps (run.program.exec around.answer tokens).value) ∧
    ∀ dump ∈ between, dump.checkpoint = .stageInput ∨ dump.checkpoint = .stageOutput
  /-- What stages are called with, in order. -/
  inputs : dumpsAt .stageInput (run.program.exec around.answer tokens).trace =
    run.inputDumps (stageCallsOf (run.program.exec around.answer tokens).trace)
  /-- What is kept of stages, in order. -/
  outputs : dumpsAt .stageOutput (run.program.exec around.answer tokens).trace =
    run.outputDumps results
  /-- Stages are called with a payload unless they only read. -/
  carries : ∀ position call,
    (position, call) ∈ stageCallsOf (run.program.exec around.answer tokens).trace →
      (call.payload = none ↔ call.operation = .read)
  /-- The stages that have completed are those that are heard to complete. -/
  completed : (eventsOf (run.program.exec around.answer tokens).trace).filter Event.isCompletion =
    (run.turnAttributes.zip results).map fun (about, result) =>
      .stage about (.completed result.counters)
  /-- What was kept of a stage is what it has left. -/
  kept : ∀ position result, results[position]? = some result →
    ∃ vars, run.resolved = .ok vars ∧
      run.Left around vars (stageCallsOf (run.program.exec around.answer tokens).trace) position
        result
  /-- Something is handed back unless the run only writes. -/
  returned : ∀ output, (run.program.exec around.answer tokens).value = .ok output →
    (output.payload? = none ↔ run.mode = .push)

/-- A stage that has completed has left the result of its turn. -/
theorem left_of_completed {position : Nat} {account : Account}
    (found : (completedTurns (run.comingTurns around tokens))[position]? = some account) :
    ∃ vars, run.resolved = .ok vars ∧
      run.Left around vars (stageCallsOf (run.program.exec around.answer tokens).trace) position
        account.result := by
  obtain ⟨-, called, -⟩ := run.answered_of_mem_completedTurns around tokens found
  obtain ⟨coming, succeeds⟩ := getElem?_of_completedTurns found
  obtain ⟨-, present, -⟩ := run.comingTurns_getElem? around tokens coming
  have within := ((run.mem_stageCallsOf_iff around tokens).mp called).1
  exact ⟨run.bindings, (run.turn_of_called around tokens within).1,
    run.left_of_succeeded around tokens within present succeeds⟩

/-- The completed turns are those of the stages from the first on. -/
theorem outputDumps_completedTurns :
    let turns := completedTurns (run.comingTurns around tokens)
    turns.filterMap (fun account => run.outputDump? account.position account.result) =
      run.outputDumps (turns.map (·.result)) := by
  intro turns
  rw [outputDumps, List.zipIdx_map, List.filterMap_map]
  conv_lhs => rw [← List.zipIdx_map_fst 0 turns, List.filterMap_map]
  refine List.filterMap_congr fun ⟨account, position⟩ mem => ?_
  have found := List.mem_zipIdx_iff_getElem?.mp mem
  obtain ⟨same, -⟩ := run.answered_of_mem_completedTurns around tokens found
  exact congrArg (run.outputDump? · account.result) same

/-- The completions that are heard of are those of the completed turns. -/
theorem completions_eq :
    (eventsOf (run.program.exec around.answer tokens).trace).filter Event.isCompletion =
      (run.turnAttributes.zip
        ((completedTurns (run.comingTurns around tokens)).map (·.result))).map
          fun (about, result) => .stage about (.completed result.counters) := by
  obtain ⟨completions, -⟩ := run.turns_told around tokens (·.result) fun _ _ => rfl
  have started : ((brokenTurn? (run.comingTurns around tokens)).toList.map fun account =>
      Event.stage account.attributes .started).filter Event.isCompletion = [] := by
    refine List.filter_eq_nil_iff.mpr fun event mem => ?_
    obtain ⟨account, -, rfl⟩ := List.mem_map.mp mem
    exact Bool.false_ne_true
  rw [program_events, completions]
  simp only [List.cons_append, List.filter_cons, List.filter_append, started, List.filter_flatMap]
  simp [Event.isCompletion, ← List.map_eq_flatMap]

/-- Stages that only read are called with nothing, all others with a payload. -/
theorem payload_of_called {position : Nat} {call : StageCall}
    (called : (position, call) ∈ stageCallsOf (run.program.exec around.answer tokens).trace) :
    call.payload = none ↔ call.operation = .read := by
  obtain ⟨within, account, found, rfl⟩ := (run.mem_stageCallsOf_iff around tokens).mp called
  obtain ⟨-, other, present, calls, -⟩ := run.turn_of_called around tokens within
  obtain rfl : other = account := Option.some.inj (present.symm.trans found)
  obtain ⟨-, -, reads, sends⟩ := run.shows_of_mem around _ tokens (List.mem_of_getElem? found)
  refine ⟨fun nothing => ?_, fun read => (reads read).1⟩
  by_contra writes
  obtain ⟨payload, transforms⟩ := other.transformed_of_called writes calls
  rw [sends writes payload transforms] at nothing
  cases nothing

/-- A run that succeeds hands back a payload unless it only writes. -/
theorem payload_of_returned {output : RunOutput}
    (returns : (run.program.exec around.answer tokens).value = .ok output) :
    output.payload? = none ↔ run.mode = .push := by
  rw [program_value] at returns
  cases fails : firstFailure (run.hurdles around tokens) with
  | some error =>
      rw [fails] at returns
      cases returns
  | none =>
      rw [fails] at returns
      obtain rfl := Except.ok.inj returns
      rw [outputFor]
      cases run.mode <;> simp [RunOutput.payload?]

/-- What is recorded of a success is what is handed back. -/
theorem dumpsOf_resultRequests (dumping : run.config.dumping = true) :
    dumpsOf (run.resultRequests (run.carryOut.exec around.answer tokens).value) =
      run.resultDumps (run.program.exec around.answer tokens).value := by
  rw [(run.program_spec around tokens).1]
  cases (run.carryOut.exec around.answer tokens).value with
  | error error => rfl
  | ok output =>
      rw [Except.mapError, resultRequests, resultDumps]
      cases output.payload? with
      | none => rfl
      | some payload =>
          rw [Option.map_some, Option.getD_some, recordRequests, if_pos dumping]
          rfl

/-- What is recorded at the end is at a checkpoint of its own. -/
theorem checkpoint_of_resultDumps {value : Except RunFailure RunOutput} :
    ∀ dump ∈ run.resultDumps value, dump.checkpoint = .result := by
  intro dump mem
  cases value with
  | error failure => cases mem
  | ok output =>
      obtain ⟨payload, -, rfl⟩ := Option.map_eq_some_iff.mp (Option.mem_toList.mp mem)
      rfl

/-- The records at the checkpoints of stages are those of turns. -/
theorem dumpsAt_program (dumping : run.config.dumping = true) {checkpoint : Checkpoint}
    (ofStage : checkpoint = .stageInput ∨ checkpoint = .stageOutput) :
    dumpsAt checkpoint (run.program.exec around.answer tokens).trace =
      dumpsAt checkpoint (run.requestsUpToFailure (run.comingTurns around tokens)) := by
  have brought : dumpsAt checkpoint (run.recordRequests .input none run.input) = [] := by
    rw [recordRequests, if_pos dumping]
    rcases ofStage with rfl | rfl <;> rfl
  have differ : Checkpoint.result ≠ checkpoint := by rcases ofStage with rfl | rfl <;> decide
  rw [dumpsAt, program_dumps, run.dumpsOf_resultRequests around tokens dumping,
    List.filter_append, List.filter_append,
    filter_checkpoint_eq_nil differ run.checkpoint_of_resultDumps, List.append_nil]
  exact congrArg (· ++ _) brought

/-- **What is recorded**, whatever happens in a run that records its payloads. -/
theorem exists_recorded (dumping : run.config.dumping = true) :
    ∃ results, run.Recorded around tokens results := by
  let turns := run.comingTurns around tokens
  have shown : ∀ account ∈ turns, run.Shows account := by
    intro account mem
    obtain ⟨index, found⟩ := List.mem_iff_getElem?.mp mem
    obtain ⟨-, present, -⟩ := run.comingTurns_getElem? around tokens found
    exact run.shows_of_mem around _ tokens (List.mem_of_getElem? present)
  obtain ⟨inputs, outputs, both⟩ := run.records_requestsUpToFailure dumping shown
  have dumps := run.program_dumps around tokens
  rw [run.dumpsOf_resultRequests around tokens dumping, recordRequests, if_pos dumping] at dumps
  refine ⟨(completedTurns turns).map (·.result), ?_⟩
  constructor
  case shape => exact ⟨_, dumps, both⟩
  case inputs =>
    rw [run.dumpsAt_program around tokens dumping (.inl rfl), inputs, program_calls]
  case outputs =>
    rw [run.dumpsAt_program around tokens dumping (.inr rfl), outputs, outputDumps_completedTurns]
  case carries => exact fun _ _ => run.payload_of_called around tokens
  case completed => exact run.completions_eq around tokens
  case kept =>
    intro position result found
    rw [List.getElem?_map, Option.map_eq_some_iff] at found
    obtain ⟨account, found, rfl⟩ := found
    exact run.left_of_completed around tokens found
  case returned => exact fun _ => run.payload_of_returned around tokens

/-- **Records show what has moved**, whatever happens in a run. First comes what the caller brings.
What the stages are called with follows in the order of the calls, failing ones included, and so
does what is kept of those that have completed and do not only write. Last comes what is handed
back, if the run succeeds and does not only write. Where no records are wanted, there are none. -/
theorem dumps_show_payloads (run : Run) (around : Surroundings) (tokens : TokenPool) :
    if run.config.dumping then ∃ results, run.Recorded around tokens results
    else dumpsOf (run.program.exec around.answer tokens).trace = [] := by
  cases dumping : run.config.dumping with
  | true => exact run.exists_recorded around tokens dumping
  | false => exact run.dumps_of_not_dumping around tokens dumping

/-- The second stage reports nothing, so what it was sent is kept of it. -/
example :
    let pipeline := { relay.pipeline with config := { relayConfig with dumping := true } }
    let run : Run := { relay with pipeline }
    let around : Surroundings :=
      { transformer := some .tagging, stages := relay.pipeline.stages.map (·.stage) }
    dumpsOf (run.program.exec around.answer {}).trace =
      [⟨"relay", .input, none, .text "order"⟩,
        ⟨"relay", .stageInput, some "first", .text "order"⟩,
        ⟨"relay", .stageInput, some "second", .text "note:order"⟩,
        ⟨"relay", .stageOutput, some "second", .text "note:order"⟩,
        ⟨"relay", .result, none, .text "note:order"⟩] := by
  rfl

end Run

end DocPipeline
