import DocPipeline.Proofs.Run.Connections

/-!
# Accounts of turns

What the turns of a run come to, worked out from what the surroundings reply and without carrying
anything out: an account says of one turn how its token check, its transformation and the call of
its stage go, and what is left in the slot. The accounts of a run follow one another along the
stages, each from the slots and tokens that those before it leave.

The accounts go on behind a failure, as if whatever failed had given nothing. What a run does is
said by the accounts up to the first failure.

## Main definitions

* `Hurdle`, `firstFailure`: steps that can fail, and the first of them that does.
* `Account`, `Run.account`, `Run.accountsFrom`: the turns of a run.
* `Run.requestsOf`, `Run.requestsUpToFailure`: the requests that turns make.

## Main results

* `Run.turn_exec`: one turn does what its account says.
* `Run.turns_exec`: the turns of a run do what their accounts say, up to the first failure.
-/

namespace DocPipeline

variable {α : Type}

/-! ### Steps that can fail -/

/-- The steps of a run that can make it fail. -/
inductive RunStep where
  /-- The variables are resolved. -/
  | resolve
  /-- A connection is asked for. -/
  | acquire
  /-- The transaction begins. -/
  | begin
  /-- The token is looked at before the turn at a position. -/
  | check (position : Nat)
  /-- A payload is transformed for the stage at a position. -/
  | transform (position : Nat)
  /-- The stage at a position works. -/
  | operate (position : Nat)
  /-- Documents are merged. -/
  | merge
  | commit
deriving DecidableEq, Repr

/-- A step of a run and how it fails, if it does. -/
structure Hurdle where
  step : RunStep
  failure : Option PipelineError
deriving DecidableEq

/-- The failure of the first step that fails. -/
def firstFailure (hurdles : List Hurdle) : Option PipelineError := hurdles.findSome? (·.failure)

@[simp] theorem firstFailure_nil : firstFailure [] = none := rfl

@[simp] theorem firstFailure_cons (hurdle : Hurdle) (hurdles : List Hurdle) :
    firstFailure (hurdle :: hurdles) = hurdle.failure.or (firstFailure hurdles) := by
  rw [firstFailure, List.findSome?_cons]
  cases hurdle.failure <;> rfl

@[simp] theorem firstFailure_append (first second : List Hurdle) :
    firstFailure (first ++ second) = (firstFailure first).or (firstFailure second) :=
  List.findSome?_append

/-- The failure in an outcome, if it is one. -/
def PipelineError.of? : Except PipelineError α → Option PipelineError
  | .error error => some error
  | .ok _ => none

@[simp] theorem PipelineError.of?_error (error : PipelineError) :
    of? (.error error : Except PipelineError α) = some error := rfl

@[simp] theorem PipelineError.of?_ok (value : α) :
    of? (.ok value : Except PipelineError α) = none := rfl

/-- A success has no failure to be reworded. -/
@[simp] theorem mapError_ok {ε : Type} (reword : ε → PipelineError) (value : α) :
    (Except.ok value).mapError reword = .ok value := rfl

@[simp] theorem mapError_error {ε : Type} (reword : ε → PipelineError) (error : ε) :
    (Except.error error : Except ε α).mapError reword = .error (reword error) := rfl

/-- The requests that follow a success. -/
def onSuccess (outcome : Except PipelineError α) (requests : α → List Request) : List Request :=
  match outcome with
  | .error _ => []
  | .ok value => requests value

@[simp] theorem onSuccess_error (error : PipelineError) (requests : α → List Request) :
    onSuccess (.error error) requests = [] := rfl

@[simp] theorem onSuccess_ok (value : α) (requests : α → List Request) :
    onSuccess (.ok value) requests = requests value := rfl

/-! ### Transformations -/

/-- What becomes of a payload that is transformed for a stage: it stays if the reference is blank,
and otherwise the transformer decides. -/
def Surroundings.transformed (around : Surroundings) (stage : StageConfig) (vars : Variables)
    (payload : Payload) : Except PipelineError Payload :=
  if Text.isBlank stage.transformation then .ok payload
  else match around.transformer with
    | some transformer =>
      (transformer.transform stage.transformation payload vars).mapError .transform
    | none =>
      .error (.transform ⟨stage.transformation,
        s!"stage '{stage.name}' needs a transformer but none is configured"⟩)

/-! ### Accounts -/

/-- What one turn comes to. -/
structure Account where
  position : Nat
  stage : StageConfig
  /-- Whether the token lets the turn begin. -/
  checked : Except PipelineError Unit
  /-- The payload that is transformed: what is to be written, or what was read. -/
  given : Payload
  /-- What becomes of it. -/
  transformed : Except PipelineError Payload
  /-- What the stage is asked to do. -/
  call : StageCall
  /-- What the stage answers. -/
  report : Except PipelineError StageResult
  /-- What is left in the slot of the stage. -/
  result : StageResult

namespace Account

/-- The work of a turn, step by step: what is written is transformed before, what is read after. -/
def work (account : Account) : List Hurdle :=
  match account.call.operation with
  | .read =>
    [⟨.operate account.position, PipelineError.of? account.report⟩,
      ⟨.transform account.position, PipelineError.of? account.transformed⟩]
  | .write | .writeThenRead =>
    [⟨.transform account.position, PipelineError.of? account.transformed⟩,
      ⟨.operate account.position, PipelineError.of? account.report⟩]

/-- A turn, step by step. -/
def hurdles (account : Account) : List Hurdle :=
  ⟨.check account.position, PipelineError.of? account.checked⟩ :: account.work

/-- How a turn fails, if it does. -/
def failure (account : Account) : Option PipelineError := firstFailure account.hurdles

/-- A turn without a failure is one in which every part succeeds. -/
theorem failure_eq_none_iff (account : Account) :
    account.failure = none ↔
      account.checked = .ok () ∧ (∃ payload, account.transformed = .ok payload) ∧
        ∃ report, account.report = .ok report := by
  rw [failure, hurdles, work]
  cases account.checked with
  | error error => simp
  | ok done =>
      cases account.call.operation <;> cases account.transformed <;> cases account.report <;> simp

/-- The tokens after the turn, if nothing fails. -/
def tokensAfter (account : Account) (around : Surroundings) (tokens : TokenPool) : TokenPool :=
  Surroundings.cancelling tokens (around.operate account.position account.call).cancelling

end Account

/-- Progress after a list of turns. -/
def Progress.through (progress : Progress) (accounts : List Account) : Progress :=
  accounts.foldl (fun progress account => progress.add account.stage.outputSlot account.result)
    progress

@[simp] theorem Progress.through_nil (progress : Progress) : progress.through [] = progress := rfl

@[simp] theorem Progress.through_cons (progress : Progress) (account : Account)
    (accounts : List Account) :
    progress.through (account :: accounts) =
      (progress.add account.stage.outputSlot account.result).through accounts := rfl

namespace Run

variable (run : Run) (around : Surroundings) (vars : Variables)

/-- The call of a stage in a run; whether statements are committed on their own follows from the
configuration. -/
def callOf (operation : Operation) (payload : Option Payload) : StageCall :=
  ⟨operation, payload, vars, !run.config.managesCommit⟩

@[simp] theorem callOf_operation (operation : Operation) (payload : Option Payload) :
    (run.callOf vars operation payload).operation = operation := rfl

@[simp] theorem callOf_vars (operation : Operation) (payload : Option Payload) :
    (run.callOf vars operation payload).vars = vars := rfl

/-- The account of the turn at a position. -/
def account (store : SlotStore) (tokens : TokenPool) (position : Nat) (stage : StageConfig) :
    Account :=
  let checked := (tokens.get run.token).check s!"stage '{stage.name}'"
  match run.mode.operation stage.mode with
  | .read =>
    let call := run.callOf vars .read none
    let report := (around.operate position call).outcome
    let found := report.toOption.getD .nothing
    let given := run.raw found.payload
    let transformed := around.transformed stage vars given
    let result := found.withPayload (transformed.toOption.getD .empty)
    { position, stage, checked, given, transformed, call, report, result }
  | operation =>
    let given := run.source store stage
    let transformed := around.transformed stage vars given
    let sent := transformed.toOption.getD .empty
    let call := run.callOf vars operation (some sent)
    let report := (around.operate position call).outcome
    let result := run.kept operation sent (report.toOption.getD .nothing)
    { position, stage, checked, given, transformed, call, report, result }

variable (tokens : TokenPool) (store : SlotStore) (position : Nat) (stage : StageConfig)

@[simp] theorem account_position :
    (run.account around vars store tokens position stage).position = position := by
  rw [account.eq_def]
  split <;> rfl

@[simp] theorem account_stage :
    (run.account around vars store tokens position stage).stage = stage := by
  rw [account.eq_def]
  split <;> rfl

theorem account_checked :
    (run.account around vars store tokens position stage).checked =
      (tokens.get run.token).check s!"stage '{stage.name}'" := by
  rw [account.eq_def]
  split <;> rfl

@[simp] theorem account_operation :
    (run.account around vars store tokens position stage).call.operation =
      run.mode.operation stage.mode := by
  rw [account.eq_def]
  split
  · next reads => exact reads.symm
  · rfl

/-- The accounts of the turns from a position on. -/
def accountsFrom : (position : Nat) → List BoundStage → SlotStore → TokenPool → List Account
  | _, [], _, _ => []
  | position, bound :: rest, store, tokens =>
    let account := run.account around vars store tokens position bound.config
    account :: accountsFrom (position + 1) rest (store.put bound.config.outputSlot account.result)
      (account.tokensAfter around tokens)

/-- The accounts of all turns of a run. -/
def accounts (tokens : TokenPool) : List Account :=
  run.accountsFrom around vars 0 run.pipeline.stages run.beginning.store tokens

/-! ### The requests of turns -/

/-- The requests that a transformation takes. -/
def transformRequests (stage : StageConfig) (payload : Payload) : List Request :=
  if Text.isBlank stage.transformation then []
  else [.transform stage.transformation payload vars]

/-- The requests that recording a payload takes. -/
def recordRequests (checkpoint : Checkpoint) (stage : Option String) (payload : Payload) :
    List Request :=
  if run.config.dumping then [.dump { pipeline := run.config.name, checkpoint, stage, payload }]
  else []

/-- The requests that the work of a turn takes. -/
def workRequests (account : Account) : List Request :=
  let transforming := transformRequests account.call.vars account.stage account.given
  let calling := Request.operate account.position account.call
  match account.call.operation with
  | .read =>
    calling :: onSuccess account.report fun _ =>
      transforming ++ onSuccess account.transformed fun payload =>
        run.recordRequests .stageOutput account.stage.name payload
  | .write =>
    transforming ++ onSuccess account.transformed fun sent =>
      run.recordRequests .stageInput account.stage.name sent ++ [calling]
  | .writeThenRead =>
    transforming ++ onSuccess account.transformed fun sent =>
      run.recordRequests .stageInput account.stage.name sent ++
        calling :: onSuccess account.report fun _ =>
          run.recordRequests .stageOutput account.stage.name account.result.payload

/-- The requests that a turn takes. -/
def requestsOf (account : Account) : List Request :=
  let tells (moment : StageMoment) : Request :=
    .emit (.stage (stageAttributes account.position account.stage account.call.operation) moment)
  .inspect run.token :: onSuccess account.checked fun _ =>
    tells .started :: (run.workRequests account ++
      if account.failure.isNone then [tells (.completed account.result.counters)] else [])

/-- The requests that turns take up to the first failure. -/
def requestsUpToFailure : List Account → List Request
  | [] => []
  | account :: rest =>
    run.requestsOf account ++ if account.failure.isNone then requestsUpToFailure rest else []

/-! ### Turns carried out -/

open Attempt

variable (tokens : TokenPool)

/-- Recording a payload carried out. -/
theorem record_exec (checkpoint : Checkpoint) (stage : Option String) (payload : Payload) :
    (run.record checkpoint stage payload).exec around.answer tokens =
      ⟨(), tokens, run.recordRequests checkpoint stage payload⟩ := by
  rw [record, recordRequests]
  cases run.config.dumping with
  | false => rfl
  | true => rfl

/-- The look at the token carried out. -/
theorem check_exec (stage : StageConfig) :
    exec around.answer tokens (run.check stage) =
      ⟨(tokens.get run.token).check s!"stage '{stage.name}'", tokens, [.inspect run.token]⟩ := by
  rw [check, exec_then_ok _ (exec_ask _ _ _)]
  cases checked : (tokens.get run.token).check s!"stage '{stage.name}'" with
  | ok done => simp [Surroundings.answer, checked]
  | error error => simp [Surroundings.answer, checked]

/-- Telling those who watch carried out. -/
theorem tellStage_exec (position : Nat) (stage : StageConfig) (operation : Operation)
    (moment : StageMoment) :
    exec around.answer tokens (tellStage position stage operation moment) =
      ⟨.ok (), tokens, [.emit (.stage (stageAttributes position stage operation) moment)]⟩ :=
  exec_ask _ _ _

/-- A transformation carried out. -/
theorem transformed_exec (stage : StageConfig) (payload : Payload) :
    exec around.answer tokens (transformed stage payload vars) =
      ⟨around.transformed stage vars payload, tokens, transformRequests vars stage payload⟩ := by
  rw [transformed, Surroundings.transformed, transformRequests]
  cases blank : Text.isBlank stage.transformation with
  | true => rfl
  | false =>
      simp only [Bool.false_eq_true, reduceIte]
      rw [exec_then_ok _ (exec_ask _ _ _)]
      cases present : around.transformer with
      | none => simp [Surroundings.answer, present]
      | some transformer =>
          cases replied : transformer.transform stage.transformation payload vars with
          | ok result =>
              simp [Surroundings.answer, present, Transformer.apply, blank, replied]
          | error error =>
              simp [Surroundings.answer, present, Transformer.apply, blank, replied]

/-- A part of a turn, and then the recording of a payload and whatever follows. -/
theorem exec_record_then {β : Type} (checkpoint : Checkpoint) (stage : Option String)
    (payload : Payload) (after : Unit → Attempt β) :
    exec around.answer tokens
        (liftM (run.record checkpoint stage payload : Program Unit) >>= after) =
      ⟨(exec around.answer tokens (after ())).value, (exec around.answer tokens (after ())).tokens,
        run.recordRequests checkpoint stage payload ++
          (exec around.answer tokens (after ())).trace⟩ := by
  refine exec_then_ok after ?_
  rw [exec_lift, record_exec]

/-- The call of a stage carried out. -/
theorem calling_exec (position : Nat) (operation : Operation) (payload : Option Payload) :
    exec around.answer tokens (operate run.transaction position operation payload vars) =
      ⟨(around.operate position (run.callOf vars operation payload)).outcome,
        Surroundings.cancelling tokens
          (around.operate position (run.callOf vars operation payload)).cancelling,
        [.operate position (run.callOf vars operation payload)]⟩ :=
  operate_exec vars rfl position operation payload tokens

/-- The work of a stage that reads does what the account says. -/
theorem work_exec_read (store : SlotStore) (position : Nat) (stage : StageConfig)
    (operation : run.mode.operation stage.mode = .read) :
    let account := run.account around vars store tokens position stage
    let execution :=
      exec around.answer tokens (run.work run.transaction vars store position stage .read)
    execution.value = (firstFailure account.work).elim (.ok account.result) .error ∧
      execution.trace = run.workRequests account := by
  have called := run.calling_exec around vars tokens position .read none
  rw [work]
  cases reported : (around.operate position (run.callOf vars .read none)).outcome with
  | error error =>
      rw [reported] at called
      rw [exec_then_error _ called]
      simp [account, operation, reported, Account.work, workRequests]
  | ok report =>
      rw [reported] at called
      have transforms := transformed_exec around vars (Surroundings.cancelling tokens
        (around.operate position (run.callOf vars .read none)).cancelling) stage
        (run.raw report.payload)
      rw [exec_then_ok _ called]
      cases transformed : around.transformed stage vars (run.raw report.payload) with
      | error error =>
          rw [transformed] at transforms
          rw [exec_then_error _ transforms]
          simp [account, operation, reported, transformed, Except.toOption, Account.work,
            workRequests]
      | ok payload =>
          rw [transformed] at transforms
          rw [exec_then_ok _ transforms, exec_record_then]
          simp [account, operation, reported, transformed, Except.toOption, Account.work,
            workRequests]

/-- What all stages that write have in common, carried out: a payload is transformed and recorded,
and the stage is called with it; then comes whatever follows. -/
theorem exec_sending_then {β : Type} (position : Nat) (stage : StageConfig) (operation : Operation)
    (source : Payload) (after : Payload → StageResult → Attempt β) :
    exec around.answer tokens (do
        let sent ← Run.transformed stage source vars
        run.record .stageInput stage.name sent
        let report ← operate run.transaction position operation (some sent) vars
        after sent report) =
      match around.transformed stage vars source with
      | .error error => ⟨.error error, tokens, transformRequests vars stage source⟩
      | .ok sent =>
        let call := run.callOf vars operation (some sent)
        let between := Surroundings.cancelling tokens (around.operate position call).cancelling
        let requests := transformRequests vars stage source ++
          (run.recordRequests .stageInput stage.name sent ++ [.operate position call])
        match (around.operate position call).outcome with
        | .error error => ⟨.error error, between, requests⟩
        | .ok report =>
          let rest := exec around.answer between (after sent report)
          ⟨rest.value, rest.tokens, requests ++ rest.trace⟩ := by
  have transforms := transformed_exec around vars tokens stage source
  cases transformed : around.transformed stage vars source with
  | error error =>
      rw [transformed] at transforms
      exact exec_then_error _ transforms
  | ok sent =>
      rw [transformed] at transforms
      have called := run.calling_exec around vars tokens position operation (some sent)
      rw [exec_then_ok _ transforms, exec_record_then]
      cases reported :
          (around.operate position (run.callOf vars operation (some sent))).outcome with
      | error error =>
          rw [reported] at called
          rw [exec_then_error _ called]
          simp [reported]
      | ok report =>
          rw [reported] at called
          rw [exec_then_ok _ called]
          simp [reported]

/-- The work of a stage that writes, and does nothing else, does what the account says. -/
theorem work_exec_write (store : SlotStore) (position : Nat) (stage : StageConfig)
    (operation : run.mode.operation stage.mode = .write) :
    let account := run.account around vars store tokens position stage
    let execution :=
      exec around.answer tokens (run.work run.transaction vars store position stage .write)
    execution.value = (firstFailure account.work).elim (.ok account.result) .error ∧
      execution.trace = run.workRequests account := by
  rw [work, exec_sending_then]
  cases transformed : around.transformed stage vars (run.source store stage) with
  | error error => simp [account, operation, transformed, Account.work, workRequests]
  | ok sent =>
      cases reported : (around.operate position (run.callOf vars .write (some sent))).outcome with
      | error error =>
          simp [account, operation, transformed, reported, Except.toOption, Account.work,
            workRequests]
      | ok report =>
          simp [account, operation, transformed, reported, Except.toOption, Account.work,
            workRequests]

/-- The work of a stage that writes and then reads does what the account says. -/
theorem work_exec_writeThenRead (store : SlotStore) (position : Nat) (stage : StageConfig)
    (operation : run.mode.operation stage.mode = .writeThenRead) :
    let account := run.account around vars store tokens position stage
    let execution :=
      exec around.answer tokens (run.work run.transaction vars store position stage .writeThenRead)
    execution.value = (firstFailure account.work).elim (.ok account.result) .error ∧
      execution.trace = run.workRequests account := by
  rw [work, exec_sending_then]
  cases transformed : around.transformed stage vars (run.source store stage) with
  | error error => simp [account, operation, transformed, Account.work, workRequests]
  | ok sent =>
      cases reported :
          (around.operate position (run.callOf vars .writeThenRead (some sent))).outcome with
      | error error =>
          simp [account, operation, transformed, reported, Except.toOption, Account.work,
            workRequests]
      | ok report =>
          simp [exec_record_then, account, operation, transformed, reported, Except.toOption,
            Account.work, workRequests]

/-- The work of a turn does what its account says. -/
theorem work_exec (store : SlotStore) (position : Nat) (stage : StageConfig) :
    let account := run.account around vars store tokens position stage
    let execution := exec around.answer tokens
      (run.work run.transaction vars store position stage (run.mode.operation stage.mode))
    execution.value = (firstFailure account.work).elim (.ok account.result) .error ∧
      execution.trace = run.workRequests account := by
  cases operation : run.mode.operation stage.mode with
  | read => exact run.work_exec_read around vars tokens store position stage operation
  | write => exact run.work_exec_write around vars tokens store position stage operation
  | writeThenRead =>
      exact run.work_exec_writeThenRead around vars tokens store position stage operation

/-- **One turn does what its account says.** -/
theorem turn_exec (progress : Progress) (position : Nat) (stage : StageConfig) :
    let account := run.account around vars progress.store tokens position stage
    let execution :=
      exec around.answer tokens (run.turn run.transaction vars progress position stage)
    execution.value =
        account.failure.elim (.ok (progress.add stage.outputSlot account.result)) .error ∧
      execution.trace = run.requestsOf account := by
  intro account execution
  have samePosition : account.position = position := run.account_position around vars tokens _ _ _
  have sameStage : account.stage = stage := run.account_stage around vars tokens _ _ _
  have operation : account.call.operation = run.mode.operation stage.mode :=
    run.account_operation around vars tokens _ _ _
  have look : exec around.answer tokens (run.check stage) =
      ⟨account.checked, tokens, [.inspect run.token]⟩ := by
    rw [check_exec, run.account_checked]
  rcases worked : exec around.answer tokens (run.work run.transaction vars progress.store
    position stage (run.mode.operation stage.mode)) with ⟨outcome, between, requests⟩
  have asSaid := run.work_exec around vars tokens progress.store position stage
  rw [worked] at asSaid
  obtain rfl : outcome = (firstFailure account.work).elim (.ok account.result) .error := asSaid.1
  obtain rfl : requests = run.workRequests account := asSaid.2
  clear asSaid
  simp only [execution]
  clear_value account
  rw [turn]
  cases passes : account.checked with
  | error error =>
      rw [passes] at look
      rw [exec_then_error _ look]
      simp [Account.failure, Account.hurdles, requestsOf, passes]
  | ok done =>
      rw [passes] at look
      rw [exec_then_ok _ look, exec_then_ok _ (tellStage_exec around tokens _ _ _ _)]
      cases fails : firstFailure account.work with
      | none =>
          rw [fails] at worked
          rw [exec_then_ok _ worked, exec_then_ok _ (tellStage_exec around between _ _ _ _)]
          simp [Account.failure, Account.hurdles, requestsOf, passes, fails, samePosition,
            sameStage, operation]
      | some error =>
          rw [fails] at worked
          rw [exec_then_error _ worked]
          simp [Account.failure, Account.hurdles, requestsOf, passes, fails, samePosition,
            sameStage, operation]

/-- Recording a payload changes no token. -/
theorem tokensAfter_recordRequests (checkpoint : Checkpoint) (stage : Option String)
    (payload : Payload) :
    Program.tokensAfter around.answer tokens (run.recordRequests checkpoint stage payload) =
      tokens := by
  rw [recordRequests]
  split <;> rfl

/-- A transformation changes no token. -/
theorem tokensAfter_transformRequests (stage : StageConfig) (payload : Payload) :
    Program.tokensAfter around.answer tokens (transformRequests vars stage payload) = tokens := by
  rw [transformRequests]
  split <;> rfl

/-- A turn without a failure leaves the tokens that its stage leaves. -/
theorem tokensAfter_requestsOf {account : Account} (succeeds : account.failure = none) :
    Program.tokensAfter around.answer tokens (run.requestsOf account) =
      account.tokensAfter around tokens := by
  obtain ⟨passes, ⟨payload, transforms⟩, report, reports⟩ := account.failure_eq_none_iff.mp succeeds
  have recorded := run.tokensAfter_recordRequests around
  have transformed := tokensAfter_transformRequests around account.call.vars
  rw [requestsOf, workRequests, passes, transforms, reports, Account.tokensAfter]
  cases account.call.operation <;>
    simp [succeeds, recorded, transformed, Surroundings.answer]

/-- **The turns of a run do what their accounts say**, up to the first failure. -/
theorem turns_exec (position : Nat) (stages : List BoundStage) (progress : Progress) :
    let accounts := run.accountsFrom around vars position stages progress.store tokens
    let execution :=
      exec around.answer tokens (run.turns run.transaction vars position stages progress)
    execution.value = (firstFailure (accounts.flatMap Account.hurdles)).elim
        (.ok (progress.through accounts)) .error ∧
      execution.trace = run.requestsUpToFailure accounts := by
  induction stages generalizing position progress tokens with
  | nil => exact ⟨rfl, rfl⟩
  | cons bound rest ih =>
      -- the tokens that the next turn finds can be told from the trace of this one
      obtain ⟨value, trace⟩ := run.turn_exec around vars tokens progress position bound.config
      have sameStage := run.account_stage around vars tokens progress.store position bound.config
      have left := Program.exec_tokens around.answer tokens
        (ExceptT.run (run.turn run.transaction vars progress position bound.config))
      rw [exec_run] at left
      simp only [turns, accountsFrom, List.flatMap_cons, firstFailure_append,
        requestsUpToFailure]
      rcases done : exec around.answer tokens
        (run.turn run.transaction vars progress position bound.config) with
        ⟨outcome, between, requests⟩
      rw [done] at value trace left
      generalize run.account around vars progress.store tokens position bound.config = account
        at *
      obtain rfl : outcome = _ := value
      obtain rfl : requests = _ := trace
      cases fails : account.failure with
      | none =>
          obtain rfl : between = account.tokensAfter around tokens :=
            left.trans (run.tokensAfter_requestsOf around tokens fails)
          rw [fails] at done
          obtain ⟨value, trace⟩ := ih (account.tokensAfter around tokens) (position + 1)
            (progress.add bound.config.outputSlot account.result)
          rw [exec_then_ok _ done]
          rw [Account.failure] at fails
          simp only [fails, Option.none_or, Progress.through_cons, sameStage]
          exact ⟨value, congrArg (run.requestsOf account ++ ·) trace⟩
      | some error =>
          rw [fails] at done
          rw [exec_then_error _ done]
          rw [Account.failure] at fails
          simp [fails]

end Run

end DocPipeline
