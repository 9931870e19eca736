import DocPipeline.Proofs.Run.Interleaving
import DocPipeline.Proofs.Run.Moves

/-!
# Cancelled runs

A run looks at its token in front of every stage and nowhere else. Whoever cancels the token, be it
before the run or in a stage at work, the run goes on until it looks next: the stage at work comes
to its end, and no other begins. If there is no other stage, the run does not notice at all.

The token shows the reason that was given first, among all who asked, before the run and in it.

## Main definitions

* `firstReason`: the reason that is given first for cancelling a token.
* `Surroundings.cancelsOf`: what stages cancel when they are called.
* `Run.reasonAfter`: why the token of a run is cancelled after some calls of stages.
* `Run.HeedsToken`: how a run heeds its token.

## Main results

* `Run.reasonAfter_eq_firstReason`: the reason that was given first is the one that counts.
* `Run.windsUp_of_cancelled`: all that a run does once its token is cancelled.
* `Run.heeds_token`: every run looks where it should, and stops where it should.
-/

namespace DocPipeline

/-! ### Reasons -/

/-- The reason that is given first for cancelling the token of a number. -/
def firstReason (requests : List (Nat × String)) (token : Nat) : Option String :=
  (requests.find? (·.1 = token)).map (·.2)

theorem firstReason_cons (request : Nat × String) (requests : List (Nat × String)) (token : Nat) :
    firstReason (request :: requests) token =
      if request.1 = token then some request.2 else firstReason requests token := by
  rw [firstReason, List.find?_cons]
  by_cases own : request.1 = token <;> simp [own, firstReason]

/-- The reason of a token after it, or another one, was cancelled. -/
theorem TokenPool.reason_cancel {pool : TokenPool} {token : Nat}
    (present : token < pool.tokens.length) (number : Nat) (reason : String) :
    ((pool.cancel number reason).get token).reason =
      (pool.get token).reason.or (if number = token then some reason else none) := by
  rw [get, get, cancel, List.getD_eq_getElem?_getD, List.getD_eq_getElem?_getD,
    List.getElem?_modify, List.getElem?_eq_getElem present]
  split
  · rfl
  · simp

/-- A reason stays. -/
theorem TokenPool.reason_cancel_of_some {pool : TokenPool} {token : Nat} {given : String}
    (cancelled : (pool.get token).reason = some given) (number : Nat) (reason : String) :
    ((pool.cancel number reason).get token).reason = some given := by
  have present : token < pool.tokens.length := by
    by_contra absent
    rw [get, List.getD_eq_getElem?_getD, List.getElem?_eq_none (Nat.le_of_not_lt absent)]
      at cancelled
    cases cancelled
  rw [reason_cancel present, cancelled]
  rfl

namespace Surroundings

/-- Of all the reasons given for cancelling a token, the first is the one that it shows. -/
theorem reason_cancelling {pool : TokenPool} {token : Nat}
    (present : token < pool.tokens.length) (requests : List (Nat × String)) :
    ((cancelling pool requests).get token).reason =
      (pool.get token).reason.or (firstReason requests token) := by
  induction requests generalizing pool with
  | nil => simp [cancelling, firstReason]
  | cons request rest ih =>
      have still : token < (pool.cancel request.1 request.2).tokens.length := by
        rwa [TokenPool.cancel, List.length_modify]
      refine (ih still).trans ?_
      rw [TokenPool.reason_cancel present, firstReason_cons, Option.or_assoc]
      split <;> simp

theorem reason_cancelling_of_some {pool : TokenPool} {token : Nat} {given : String}
    (cancelled : (pool.get token).reason = some given) (requests : List (Nat × String)) :
    ((cancelling pool requests).get token).reason = some given := by
  induction requests generalizing pool with
  | nil => exact cancelled
  | cons request rest ih => exact ih (TokenPool.reason_cancel_of_some cancelled _ _)

theorem cancelling_append (pool : TokenPool) (first second : List (Nat × String)) :
    cancelling pool (first ++ second) = cancelling (cancelling pool first) second :=
  List.foldl_append

/-- What stages cancel when they are called, in order. -/
def cancelsOf (around : Surroundings) (calls : List (Nat × StageCall)) : List (Nat × String) :=
  calls.flatMap fun (position, call) => (around.operate position call).cancelling

@[simp] theorem cancelsOf_nil (around : Surroundings) : around.cancelsOf [] = [] := rfl

@[simp] theorem cancelsOf_append (around : Surroundings) (calls more : List (Nat × StageCall)) :
    around.cancelsOf (calls ++ more) = around.cancelsOf calls ++ around.cancelsOf more :=
  List.flatMap_append

/-- The tokens after a trace are what the stages that were called have left of them. -/
theorem tokensAfter_eq (around : Surroundings) (tokens : TokenPool) (trace : List Request) :
    Program.tokensAfter around.answer tokens trace =
      cancelling tokens (around.cancelsOf (stageCallsOf trace)) := by
  induction trace generalizing tokens with
  | nil => rfl
  | cons request rest ih =>
      rw [Program.tokensAfter_cons, ih]
      cases request with
      | operate position call =>
          rw [stageCallsOf_cons, cancelsOf_append, cancelling_append]
          simp [answer, cancelsOf, Request.stageCall?]
      | _ => rfl

end Surroundings

namespace Run

variable (run : Run) (around : Surroundings) (tokens : TokenPool)

/-- Why the token of a run is cancelled after some calls of stages, if it is. -/
def reasonAfter (calls : List (Nat × StageCall)) : Option String :=
  ((Surroundings.cancelling tokens (around.cancelsOf calls)).get run.token).reason

@[simp] theorem reasonAfter_nil : run.reasonAfter around tokens [] = (tokens.get run.token).reason :=
  rfl

theorem reasonAfter_append (calls more : List (Nat × StageCall)) :
    run.reasonAfter around tokens (calls ++ more) =
      run.reasonAfter around (Surroundings.cancelling tokens (around.cancelsOf calls)) more := by
  rw [reasonAfter, reasonAfter, Surroundings.cancelsOf_append, Surroundings.cancelling_append]

/-- Once a token is cancelled, it stays so, for the same reason. -/
theorem reasonAfter_append_of_some {calls : List (Nat × StageCall)} {reason : String}
    (cancelled : run.reasonAfter around tokens calls = some reason)
    (more : List (Nat × StageCall)) :
    run.reasonAfter around tokens (calls ++ more) = some reason := by
  rw [reasonAfter_append]
  exact Surroundings.reason_cancelling_of_some cancelled _

/-- **The reason that counts** is the one that was given first, before the run or in it. -/
theorem reasonAfter_eq_firstReason {pool : TokenPool}
    (fresh : pool.tokens[run.token]? = some .untouched) (earlier : List (Nat × String))
    (calls : List (Nat × StageCall)) :
    run.reasonAfter around (Surroundings.cancelling pool earlier) calls =
      firstReason (earlier ++ around.cancelsOf calls) run.token := by
  have present := (List.getElem?_eq_some_iff.mp fresh).1
  have untouched : (pool.get run.token).reason = none := by
    rw [TokenPool.get, List.getD_eq_getElem?_getD, fresh]
    rfl
  rw [reasonAfter, ← Surroundings.cancelling_append, Surroundings.reason_cancelling present,
    untouched, Option.none_or]

/-- A turn adds what its stage cancels. -/
theorem reasonAfter_cons (account : Account) (calls : List (Nat × StageCall)) :
    run.reasonAfter around tokens ((account.position, account.call) :: calls) =
      run.reasonAfter around (account.tokensAfter around tokens) calls := by
  have same : Surroundings.cancelling tokens (around.cancelsOf [(account.position, account.call)]) =
      account.tokensAfter around tokens := by
    rw [Surroundings.cancelsOf, List.flatMap_singleton, Account.tokensAfter]
  rw [← List.singleton_append, reasonAfter_append, same]

/-! ### Once the token is cancelled -/

/-- The token of a turn lets it begin exactly if nobody has cancelled it. -/
theorem account_checked_ok_iff (vars : Variables) (store : SlotStore) (position : Nat)
    (stage : StageConfig) :
    (run.account around vars store tokens position stage).checked = .ok () ↔
      (tokens.get run.token).reason = none := by
  rw [account_checked, CancellationToken.check]
  cases (tokens.get run.token).reason <;> simp

/-- A cancelled token stops the turn in front of a stage. -/
theorem account_checked_of_cancelled (vars : Variables) (store : SlotStore) (position : Nat)
    (stage : StageConfig) {reason : String}
    (cancelled : (tokens.get run.token).reason = some reason) :
    (run.account around vars store tokens position stage).checked =
      .error (.cancelled s!"{reason} (before stage '{stage.name}')") := by
  have worded (checkpoint : String) (same : checkpoint = s!"stage '{stage.name}'") :
      s!"{reason} (before {checkpoint})" = s!"{reason} (before stage '{stage.name}')" := by
    simp only [same, toString, String.append_assoc]
    exact String.toList_injective (by simp)
  rw [account_checked, CancellationToken.check, cancelled]
  exact congrArg (fun text => Except.error (PipelineError.cancelled text)) (worded _ rfl)

/-- A run whose token is cancelled looks at it once more at most. -/
theorem moves_of_cancelled (vars : Variables) (position : Nat) (stages : List BoundStage)
    (store : SlotStore) {reason : String} (cancelled : (tokens.get run.token).reason = some reason) :
    ∀ request ∈ movesOf (run.requestsUpToFailure
      (run.accountsFrom around vars position stages store tokens)),
        request = .inspect run.token := by
  intro request mem
  cases stages with
  | nil => cases mem
  | cons bound rest =>
      have checked := run.account_checked_of_cancelled around tokens vars store position
        bound.config cancelled
      rw [accountsFrom, movesOf_requestsUpToFailure_cons, movesIn, Account.failure,
        Account.hurdles, checked] at mem
      simpa using mem

/-- A move of a run whose token is cancelled after some calls: another look at the token, or the
transformation of what was read in the last call, if the token was cancelled there. -/
def WindsUp (accounts : List Account) (calls : List (Nat × StageCall)) (request : Request) : Prop :=
  request = .inspect run.token ∨
    ∃ earlier account, account ∈ accounts ∧
      calls = earlier ++ [(account.position, account.call)] ∧
      run.reasonAfter around tokens earlier = none ∧
      account.call.operation = .read ∧ account.report.isOk ∧
      request ∈ transformRequests account.call.vars account.stage account.given

/-- **The moves of turns once the token is cancelled.** -/
theorem windsUp_turns (vars : Variables) (position : Nat) (stages : List BoundStage)
    (store : SlotStore) {before after : List Request}
    (split : movesOf (run.requestsUpToFailure
      (run.accountsFrom around vars position stages store tokens)) = before ++ after)
    {reason : String}
    (cancelled : run.reasonAfter around tokens (stageCallsOf before) = some reason) :
    ∀ request ∈ after, run.WindsUp around tokens
      (run.accountsFrom around vars position stages store tokens) (stageCallsOf before) request := by
  induction stages generalizing position store tokens before with
  | nil =>
      intro request mem
      have nothing : before ++ after = [] := split.symm
      rw [(List.append_eq_nil_iff.mp nothing).2] at mem
      cases mem
  | cons bound rest ih =>
      cases first : (tokens.get run.token).reason with
      | some given =>
          intro request mem
          have all := run.moves_of_cancelled around tokens vars position (bound :: rest) store first
          rw [split] at all
          exact .inl (all request (List.mem_append_right before mem))
      | none =>
          have checked := (run.account_checked_ok_iff around tokens vars store position
            bound.config).mpr first
          rw [accountsFrom, movesOf_requestsUpToFailure_cons] at split
          rw [accountsFrom]
          generalize run.account around vars store tokens position bound.config = account
            at split checked ⊢
          obtain ⟨further, rfl, behind⟩ | ⟨left, moves, rfl⟩ := List.append_eq_append_iff.mp split
          · -- this turn was over when the token was cancelled
            cases fails : account.failure with
            | some error =>
                rw [fails] at behind
                intro request mem
                have nothing : further ++ after = [] := behind.symm
                rw [(List.append_eq_nil_iff.mp nothing).2] at mem
                cases mem
            | none =>
                have call := run.stageCallsOf_movesIn_of_succeeds fails
                simp only [fails, Option.isNone_none, reduceIte] at behind
                rw [stageCallsOf_append, call, List.singleton_append, reasonAfter_cons] at cancelled
                have later := ih _ _ _ behind cancelled
                intro request mem
                obtain same | ⟨earlier, other, present, calls, clear, reads, reported, transforms⟩ :=
                  later request mem
                · exact .inl same
                · refine .inr ⟨(account.position, account.call) :: earlier, other,
                    List.mem_cons_of_mem _ present, ?_, ?_, reads, reported, transforms⟩
                  · rw [stageCallsOf_append, call, calls]
                    rfl
                  · rw [reasonAfter_cons, clear]
          · -- the token was cancelled in this turn, so no other begins
            have called : stageCallsOf before ≠ [] := by
              intro none
              rw [none, reasonAfter_nil, first] at cancelled
              cases cancelled
            obtain ⟨calls, rest⟩ := run.movesIn_behind_call moves called
            intro request mem
            rcases List.mem_append.mp mem with here | later
            · obtain ⟨reads, reported, transforms⟩ := rest request here
              exact .inr ⟨[], account, List.mem_cons_self, calls, first, reads, reported, transforms⟩
            · rw [calls, reasonAfter_cons, reasonAfter_nil] at cancelled
              split at later
              · exact .inl (run.moves_of_cancelled around _ vars _ _ _ cancelled request later)
              · cases later

/-- **All that a run does once its token is cancelled.** -/
theorem windsUp_of_cancelled {before after : List Request}
    (split : (run.program.exec around.answer tokens).trace = before ++ after) {reason : String}
    (cancelled : run.reasonAfter around tokens (stageCallsOf before) = some reason)
    {request : Request} (mem : request ∈ after) (moves : request.isMove = true) :
    run.WindsUp around tokens (run.turnAccounts around tokens) (stageCallsOf before) request := by
  have turns := run.program_moves around tokens
  have within : request ∈ movesOf after := List.mem_filter.mpr ⟨mem, moves⟩
  rw [split, movesOf_append, comingTurns] at turns
  rw [← stageCallsOf_movesOf] at cancelled ⊢
  split at turns
  · exact run.windsUp_turns around tokens run.bindings 0 run.pipeline.stages run.beginning.store
      turns.symm cancelled request within
  · rw [(List.append_eq_nil_iff.mp turns).2] at within
    cases within

end Run

/-! ### Stages that are called -/

namespace Account

variable {account : Account} (called : operations account.hurdles = 1)

include called

/-- A stage is called only if the token lets it. -/
theorem checked_of_called : account.checked = .ok () := by
  cases checked : account.checked with
  | ok done => rfl
  | error error => simp [hurdles, checked, RunStep.isOperation] at called

/-- A stage that fails when it is called makes its turn fail. -/
theorem failure_of_report {error : PipelineError} (fails : account.report = .error error) :
    account.failure = some error := by
  have checked := checked_of_called called
  cases operation : account.call.operation with
  | read => simp [failure, hurdles, work, operation, checked, fails]
  | write =>
      obtain ⟨payload, sent⟩ := account.transformed_of_called (by simp [operation]) called
      simp [failure, hurdles, work, operation, checked, fails, sent]
  | writeThenRead =>
      obtain ⟨payload, sent⟩ := account.transformed_of_called (by simp [operation]) called
      simp [failure, hurdles, work, operation, checked, fails, sent]

/-- What was read and cannot be transformed makes the turn fail. -/
theorem failure_of_read {report : StageResult} {error : PipelineError}
    (reads : account.call.operation = .read) (reports : account.report = .ok report)
    (fails : account.transformed = .error error) : account.failure = some error := by
  simp [failure, hurdles, work, reads, checked_of_called called, reports, fails]

end Account

/-- The first turn that fails decides how the turns end. -/
theorem firstFailure_flatMap {accounts : List Account} {index : Nat} {account : Account}
    {error : PipelineError} (found : accounts[index]? = some account)
    (earlier : ∀ other ∈ accounts.take index, other.failure = none)
    (fails : account.failure = some error) :
    firstFailure (accounts.flatMap Account.hurdles) = some error := by
  induction accounts generalizing index with
  | nil => cases found
  | cons first rest ih =>
      rw [List.flatMap_cons, firstFailure_append, ← Account.failure]
      cases index with
      | zero =>
          obtain rfl := Option.some.inj found
          rw [fails, Option.some_or]
      | succ index =>
          rw [List.take_succ_cons] at earlier
          obtain ⟨succeeds, earlier⟩ := List.forall_mem_cons.mp earlier
          rw [succeeds, Option.none_or]
          exact ih found earlier

namespace Run

variable (run : Run) (around : Surroundings) (tokens : TokenPool)

/-- How a run ends if a turn is the first of its steps to fail. -/
theorem firstFailure_of_turn {position : Nat} {account : Account} {error : PipelineError}
    (opens : firstFailure (run.opening around) = none)
    (found : (run.turnAccounts around tokens)[position]? = some account)
    (earlier : ∀ other ∈ (run.turnAccounts around tokens).take position, other.failure = none)
    (fails : account.failure = some error) :
    firstFailure (run.hurdles around tokens) = some error := by
  rw [hurdles, firstFailure_append, firstFailure_append, opens,
    firstFailure_flatMap found earlier fails]
  rfl

/-- The turn of a stage that is called. -/
theorem turn_of_stageCall {position : Nat} {call : StageCall}
    (shown : (position, call) ∈ stageCallsOf (run.program.exec around.answer tokens).trace) :
    firstFailure (run.opening around) = none ∧
      ∃ account, (run.turnAccounts around tokens)[position]? = some account ∧
        account.call = call ∧ operations account.hurdles = 1 ∧
        ∀ earlier ∈ (run.turnAccounts around tokens).take position, earlier.failure = none := by
  obtain ⟨called, account, found, same⟩ := (run.mem_stageCallsOf_iff around tokens).mp shown
  obtain ⟨-, other, there, calls, earlier⟩ := run.turn_of_called around tokens called
  obtain rfl : account = other := Option.some.inj (found.symm.trans there)
  refine ⟨?_, account, found, same, calls, earlier⟩
  rw [operations_hurdles] at called
  split at called
  · assumption
  · exact absurd called (Nat.not_lt_zero position)

/-- The stage at a position fails on a call, or gives a payload to read that cannot be
transformed. -/
def StageFails (position : Nat) (call : StageCall) (error : PipelineError) : Prop :=
  (around.operate position call).outcome = .error error ∨
    ∃ bound report, run.pipeline.stages[position]? = some bound ∧ call.operation = .read ∧
      (around.operate position call).outcome = .ok report ∧
      around.transformed bound.config call.vars (run.raw report.payload) = .error error

/-- **A stage that fails decides how the run ends**, whatever it has cancelled. -/
theorem value_of_stageFails {position : Nat} {call : StageCall} {error : PipelineError}
    (shown : (position, call) ∈ stageCallsOf (run.program.exec around.answer tokens).trace)
    (fails : run.StageFails around position call error) :
    (run.program.exec around.answer tokens).value =
      .error ⟨run.config.name, run.id, error⟩ := by
  obtain ⟨opens, account, found, rfl, called, earlier⟩ := run.turn_of_stageCall around tokens shown
  obtain ⟨bound, present, turn⟩ := run.isTurn_of_getElem? around tokens found
  have failing : account.failure = some error := by
    obtain fails | ⟨stage, result, there, reads, reports, fails⟩ := fails
    · exact Account.failure_of_report called (turn.report.trans fails)
    · obtain rfl : bound = stage := Option.some.inj (present.symm.trans there)
      refine Account.failure_of_read called reads (turn.report.trans reports) ?_
      have reads := turn.operation.symm.trans reads
      rw [turn.vars] at fails
      rw [turn.transformed reads, turn.given reads, turn.report, reports]
      exact fails
  rw [program_value, run.firstFailure_of_turn around tokens opens found earlier failing]
  rfl

/-! ### In front of a stage -/

/-- A stage that has left something has had its turn without a failure. -/
theorem succeeds_of_left {position : Nat} {result : StageResult}
    (left : run.Left around run.bindings (stageCallsOf (run.program.exec around.answer tokens).trace)
      position result) :
    ∃ account, (run.turnAccounts around tokens)[position]? = some account ∧
      account.failure = none ∧
      ∀ earlier ∈ (run.turnAccounts around tokens).take position, earlier.failure = none := by
  obtain ⟨stage, call, report, payload, there, shown, reports, leaves, -⟩ := left
  obtain ⟨-, account, found, rfl, called, earlier⟩ := run.turn_of_stageCall around tokens shown
  obtain ⟨bound, present, turn⟩ := run.isTurn_of_getElem? around tokens found
  obtain rfl : bound = stage := Option.some.inj (present.symm.trans there)
  have reported := turn.report.trans reports
  refine ⟨account, found, account.failure_eq_none_iff.mpr
    ⟨Account.checked_of_called called, ?_, report, reported⟩, earlier⟩
  by_cases reads : run.mode.operation bound.config.mode = .read
  · rw [turn.transformed reads, turn.given reads, reported]
    exact ⟨payload, (run.leaves_iff_of_read around _ reads _).mp leaves⟩
  · exact account.transformed_of_called (turn.operation ▸ reads) called

/-- Turns that have all left something end well, and all their stages were called. -/
theorem turns_of_left {vars : Variables} (resolves : run.resolved = .ok vars) {position : Nat}
    (left : ∀ earlier < position, ∃ result, run.Left around vars
      (stageCallsOf (run.program.exec around.answer tokens).trace) earlier result) :
    position ≤ operations (run.hurdles around tokens) ∧
      ∀ other ∈ (run.turnAccounts around tokens).take position, other.failure = none := by
  have same := run.bindings_of_resolved resolves
  subst same
  constructor
  · cases position with
    | zero => exact Nat.zero_le _
    | succ last =>
        obtain ⟨result, bound, call, report, payload, -, shown, -⟩ := left last (Nat.lt_succ_self _)
        exact ((run.mem_stageCallsOf_iff around tokens).mp shown).1
  · intro other mem
    obtain ⟨index, before, rfl⟩ := List.mem_take_iff_getElem.mp mem
    obtain ⟨result, stands⟩ := left index (Nat.lt_of_lt_of_le before (Nat.min_le_left _ _))
    obtain ⟨account, found, succeeds, -⟩ := run.succeeds_of_left around tokens stands
    rw [List.getElem?_eq_getElem (Nat.lt_of_lt_of_le before (Nat.min_le_right _ _))] at found
    rw [Option.some.inj found, succeeds]

/-- The look at the token in front of a stage shows what the stages before it have left of it. -/
theorem accountsFrom_checked (vars : Variables) {position index : Nat} {stages : List BoundStage}
    {store : SlotStore} {account : Account} {bound : BoundStage}
    (found : (run.accountsFrom around vars position stages store tokens)[index]? = some account)
    (present : stages[index]? = some bound) {reason : String}
    (cancelled : run.reasonAfter around tokens
      (((run.accountsFrom around vars position stages store tokens).take index).map fun account =>
        (account.position, account.call)) = some reason) :
    account.checked = .error (.cancelled s!"{reason} (before stage '{bound.config.name}')") := by
  induction index generalizing position stages store tokens with
  | zero =>
      cases stages with
      | nil => cases found
      | cons first rest =>
          obtain rfl := Option.some.inj found
          obtain rfl := Option.some.inj present
          exact run.account_checked_of_cancelled around tokens vars store position _ cancelled
  | succ index ih =>
      cases stages with
      | nil => cases found
      | cons first rest =>
          rw [accountsFrom, List.take_succ_cons, List.map_cons, reasonAfter_cons] at cancelled
          exact ih _ found present cancelled

/-- The calls on the connection of a run whose turns do not all end well. -/
theorem lifecycle_of_failed {vars : Variables} (resolves : run.resolved = .ok vars)
    (acquires : around.faults.answer (.acquire run.config.connectionName) = .ok ())
    {error : PipelineError}
    (fails : firstFailure ((run.turnAccounts around tokens).flatMap Account.hurdles) =
      some error) :
    run.lifecycle around tokens =
      .acquire run.config.connectionName ::
        (if run.config.managesCommit then [.setAutoCommit false, .rollback] else []) ++
          [.release run.config.connectionName] := by
  have handedOut : around.faults.acquire = false := by
    cases failing : around.faults.acquire with
    | false => rfl
    | true => simp [ConnectionFaults.answer_acquire, failing] at acquires
  have settled : settlement around.faults (run.attained around tokens vars) = [.rollback] := by
    rw [attained]
    cases run.begun around with
    | error error => rfl
    | ok done =>
        rw [turnAccounts, run.bindings_of_resolved resolves] at fails
        simp only [drive_value, fails]
        rfl
  rw [lifecycle, resolves]
  simp only [handedOut, settled]
  rfl

/-- **A run that comes to a stage with a cancelled token** stops in front of it, for the reason that
the token shows, and rolls back. -/
theorem stops_of_cancelled {vars : Variables} {position : Nat} {bound : BoundStage}
    {reason : String} (present : run.pipeline.stages[position]? = some bound)
    (resolves : run.resolved = .ok vars)
    (acquires : around.faults.answer (.acquire run.config.connectionName) = .ok ())
    (begins : run.begun around = .ok ())
    (left : ∀ earlier < position, ∃ result, run.Left around vars
      (stageCallsOf (run.program.exec around.answer tokens).trace) earlier result)
    (cancelled : run.reasonAfter around tokens
      ((stageCallsOf (run.program.exec around.answer tokens).trace).take position) =
        some reason) :
    let execution := run.program.exec around.answer tokens
    execution.value = .error ⟨run.config.name, run.id,
        .cancelled s!"{reason} (before stage '{bound.config.name}')"⟩ ∧
      callsOf execution.trace =
        .acquire run.config.connectionName ::
          (if run.config.managesCommit then [.setAutoCommit false, .rollback] else []) ++
            [.release run.config.connectionName] := by
  have same := run.bindings_of_resolved resolves
  have opens := (run.firstFailure_opening_eq_none_iff around).mpr
    ⟨same ▸ resolves, acquires, begins⟩
  have within : position < (run.turnAccounts around tokens).length := by
    rw [length_turnAccounts]
    exact (List.getElem?_eq_some_iff.mp present).1
  have found := List.getElem?_eq_getElem within
  obtain ⟨reached, earlier⟩ := run.turns_of_left around tokens resolves left
  have calls : (stageCallsOf (run.program.exec around.answer tokens).trace).take position =
      ((run.turnAccounts around tokens).take position).map fun account =>
        (account.position, account.call) := by
    rw [(run.program_stages around tokens).1, List.take_take, Nat.min_eq_left reached,
      List.map_take]
  rw [calls] at cancelled
  have checked := run.accountsFrom_checked around tokens run.bindings found present cancelled
  have fails : ((run.turnAccounts around tokens)[position]).failure =
      some (.cancelled s!"{reason} (before stage '{bound.config.name}')") := by
    rw [Account.failure, Account.hurdles, checked]
    rfl
  constructor
  · rw [program_value, run.firstFailure_of_turn around tokens opens found earlier fails]
    rfl
  · rw [(run.program_spec around tokens).2.1, carryOut_calls]
    exact run.lifecycle_of_failed around tokens resolves acquires
      (firstFailure_flatMap found earlier fails)

end Run

/-! ### In the last stage -/

/-- Surroundings in which stages do the same and cancel nothing. -/
def Surroundings.quiet (around : Surroundings) : Surroundings :=
  { around with
    stages := around.stages.map fun stage =>
      { stage with act := fun call => { stage.act call with cancelling := [] } } }

namespace Surroundings

variable (around : Surroundings)

theorem operate_quiet (position : Nat) (call : StageCall) :
    around.quiet.operate position call =
      { around.operate position call with cancelling := [] } := by
  rw [operate, operate, quiet, List.getElem?_map]
  cases around.stages[position]? <;> rfl

theorem cleanUp_quiet (position : Nat) : around.quiet.cleanUp position = around.cleanUp position := by
  rw [cleanUp, cleanUp, quiet, List.getElem?_map]
  cases around.stages[position]? <;> rfl

end Surroundings

/-- **A program that never finds its token cancelled** goes the same way where nobody cancels it. -/
theorem Program.exec_quiet {α : Type} (around : Surroundings) {token : Nat} {program : Program α}
    {pool other : TokenPool} (looks : program.Asks (Request.LooksOnlyAt token))
    (untouched : other.get token = .untouched)
    (clear : ∀ before after,
      (program.exec around.answer pool).trace = before ++ .inspect token :: after →
        (tokensAfter around.answer pool before).get token = .untouched) :
    (program.exec around.quiet.answer other).value = (program.exec around.answer pool).value ∧
      (program.exec around.quiet.answer other).trace =
        (program.exec around.answer pool).trace := by
  induction program generalizing pool with
  | done value => exact ⟨rfl, rfl⟩
  | step request next ih =>
      obtain ⟨looksHere, looksOn⟩ := looks
      have answers : around.quiet.answer request other = ((around.answer request pool).1, other) := by
        cases request with
        | inspect number =>
            obtain rfl : number = token := looksHere
            have here := clear [] _ (by rw [exec_step]; rfl)
            rw [tokensAfter_nil] at here
            rw [Surroundings.answer, Surroundings.answer, untouched, here]
        | operate position call =>
            rw [Surroundings.answer, around.operate_quiet]
            rfl
        | cleanUp position =>
            rw [Surroundings.answer, around.cleanUp_quiet]
            rfl
        | _ => rfl
      have onward := ih (around.answer request pool).1 (looksOn _) fun before after split =>
        clear (request :: before) after (by rw [exec_step, split]; rfl)
      rw [exec_step, exec_step, answers]
      exact ⟨onward.1, congrArg (request :: ·) onward.2⟩

/-- A token without a reason is untouched. -/
theorem CancellationToken.eq_untouched {token : CancellationToken} (clear : token.reason = none) :
    token = .untouched := by
  cases token
  cases clear
  rfl

namespace Run

variable (run : Run) (around : Surroundings) (tokens : TokenPool)

/-- A token that is not cancelled after some calls was not cancelled before. -/
theorem reasonAfter_eq_none_of_append {calls more : List (Nat × StageCall)}
    (clear : run.reasonAfter around tokens (calls ++ more) = none) :
    run.reasonAfter around tokens calls = none := by
  cases given : run.reasonAfter around tokens calls with
  | none => rfl
  | some reason =>
      rw [run.reasonAfter_append_of_some around tokens given] at clear
      cases clear

/-- **A run whose token is cancelled in the last stage, or not at all**, goes the same way as if no
stage cancelled anything. -/
theorem exec_quiet_of_late
    (late : run.reasonAfter around tokens
      ((stageCallsOf (run.program.exec around.answer tokens).trace).take
        (run.pipeline.stages.length - 1)) = none) :
    (run.program.exec around.quiet.answer tokens).value =
        (run.program.exec around.answer tokens).value ∧
      (run.program.exec around.quiet.answer tokens).trace =
        (run.program.exec around.answer tokens).trace := by
  have clear : run.reasonAfter around tokens [] = none :=
    run.reasonAfter_eq_none_of_append around tokens late
  refine Program.exec_quiet around run.program_looksOnlyAt (CancellationToken.eq_untouched clear)
    fun before after split => ?_
  -- at most all stages but the last were called before any look at the token
  have moves := run.program_moves around tokens
  rw [split, movesOf_append, movesOf_cons] at moves
  have few := run.length_calls_before_inspect moves.symm
  have within : (run.comingTurns around tokens).length ≤ run.pipeline.stages.length := by
    rw [comingTurns]
    split
    · exact Nat.le_of_eq (run.length_turnAccounts around tokens)
    · exact Nat.zero_le _
  rw [stageCallsOf_movesOf] at few
  rw [split, stageCallsOf_append, List.take_append,
    List.take_of_length_le (by omega : _ ≤ run.pipeline.stages.length - 1)] at late
  rw [Surroundings.tokensAfter_eq]
  exact CancellationToken.eq_untouched (run.reasonAfter_eq_none_of_append around tokens late)

/-! ### All together -/

/-- What a run still transforms once its token is cancelled: what the stage has read that was called
last, if the token was cancelled in that call. -/
def FinishesRead (asked : List (Nat × StageCall) → Option String)
    (calls : List (Nat × StageCall)) (reference : String) (payload : Payload) : Prop :=
  ∃ earlier position call bound report, calls = earlier ++ [(position, call)] ∧
    asked earlier = none ∧ run.pipeline.stages[position]? = some bound ∧
    call.operation = .read ∧ (around.operate position call).outcome = .ok report ∧
    reference = bound.config.transformation ∧ payload = run.raw report.payload

/-- What a run keeps to whenever its token is cancelled, where `asked` says why it is cancelled after
some calls of stages. -/
structure HeedsToken (asked : List (Nat × StageCall) → Option String) : Prop where
  /-- Once the token is cancelled, no stage is called and none starts, and nothing is transformed but
  what was read in the meantime. -/
  windsUp : ∀ before after, (run.program.exec around.answer tokens).trace = before ++ after →
    (asked (stageCallsOf before)).isSome →
      stageCallsOf after = [] ∧ (∀ attributes, .emit (.stage attributes .started) ∉ after) ∧
        ∀ reference payload vars, .transform reference payload vars ∈ after →
          run.FinishesRead around asked (stageCallsOf before) reference payload
  /-- In front of a stage, when all stages before it have left something, a cancelled token ends the
  run, and a transaction is rolled back and not committed. -/
  stops : ∀ vars position bound reason, run.resolved = .ok vars →
    around.faults.answer (.acquire run.config.connectionName) = .ok () →
    run.begun around = .ok () → run.pipeline.stages[position]? = some bound →
    (∀ earlier < position, ∃ result, run.Left around vars
      (stageCallsOf (run.program.exec around.answer tokens).trace) earlier result) →
    asked ((stageCallsOf (run.program.exec around.answer tokens).trace).take position) =
      some reason →
        (run.program.exec around.answer tokens).value = .error ⟨run.config.name, run.id,
            .cancelled s!"{reason} (before stage '{bound.config.name}')"⟩ ∧
          callsOf (run.program.exec around.answer tokens).trace =
            .acquire run.config.connectionName ::
              (if run.config.managesCommit then [.setAutoCommit false, .rollback] else []) ++
                [.release run.config.connectionName]
  /-- The failure of a stage ends the run, whether the stage has cancelled the token or not. -/
  fails : ∀ position call error,
    (position, call) ∈ stageCallsOf (run.program.exec around.answer tokens).trace →
      run.StageFails around position call error →
        (run.program.exec around.answer tokens).value = .error ⟨run.config.name, run.id, error⟩
  /-- Cancelled in the last stage only, the token does not matter: the run goes the same way as if
  no stage cancelled anything. -/
  unaware : asked ((stageCallsOf (run.program.exec around.answer tokens).trace).take
      (run.pipeline.stages.length - 1)) = none →
    (run.program.exec around.quiet.answer tokens).value =
        (run.program.exec around.answer tokens).value ∧
      (run.program.exec around.quiet.answer tokens).trace =
        (run.program.exec around.answer tokens).trace

theorem mem_transformRequests {vars : Variables} {stage : StageConfig} {payload : Payload}
    {request : Request} (mem : request ∈ transformRequests vars stage payload) :
    request = .transform stage.transformation payload vars := by
  rw [transformRequests] at mem
  split at mem
  · cases mem
  · exact List.mem_singleton.mp mem

/-- Only looks at the token and transformations wind up a run. -/
theorem WindsUp.look_or_transform {accounts : List Account} {calls : List (Nat × StageCall)}
    {request : Request} (windsUp : run.WindsUp around tokens accounts calls request) :
    request = .inspect run.token ∨
      ∃ reference payload vars, request = .transform reference payload vars := by
  obtain same | ⟨earlier, account, -, -, -, -, -, transforms⟩ := windsUp
  · exact .inl same
  · exact .inr ⟨_, _, _, mem_transformRequests transforms⟩

/-- The transformations that wind up a run are those of what was read. -/
theorem WindsUp.finishesRead {calls : List (Nat × StageCall)} {reference : String}
    {payload : Payload} {vars : Variables}
    (windsUp : run.WindsUp around tokens (run.turnAccounts around tokens) calls
      (.transform reference payload vars)) :
    run.FinishesRead around (run.reasonAfter around tokens) calls reference payload := by
  obtain same | ⟨earlier, account, present, same, clear, reads, reported, transforms⟩ := windsUp
  · cases same
  · obtain ⟨position, found⟩ := List.mem_iff_getElem?.mp present
    obtain ⟨bound, there, turn⟩ := run.isTurn_of_getElem? around tokens found
    have report := turn.report
    have given := turn.given (turn.operation.symm.trans reads)
    obtain ⟨rfl, rfl, rfl⟩ := Request.transform.inj (mem_transformRequests transforms)
    cases reports : account.report with
    | error error =>
        rw [reports] at reported
        cases reported
    | ok result =>
        rw [reports] at report given
        rw [turn.position] at same
        exact ⟨earlier, position, account.call, bound, result, same, clear, there, reads,
          report.symm, congrArg (·.transformation) turn.stage, given⟩

/-- **Cancelled runs.** Of a token that nobody had cancelled, any number of people may ask for it
before the run, and any stages while they work: the run heeds the token, and the reason that counts
is the one that was given first. -/
theorem heeds_token (run : Run) (around : Surroundings) (pool : TokenPool)
    (earlier : List (Nat × String)) (fresh : pool.tokens[run.token]? = some .untouched) :
    run.HeedsToken around (Surroundings.cancelling pool earlier) fun calls =>
      firstReason (earlier ++ around.cancelsOf calls) run.token := by
  have asked : (fun calls => firstReason (earlier ++ around.cancelsOf calls) run.token) =
      run.reasonAfter around (Surroundings.cancelling pool earlier) :=
    funext fun calls => (run.reasonAfter_eq_firstReason around fresh earlier calls).symm
  rw [asked]
  constructor
  · intro before after split cancelled
    obtain ⟨reason, cancelled⟩ := Option.isSome_iff_exists.mp cancelled
    have windsUp {request : Request} := @run.windsUp_of_cancelled around _ before after split reason
      cancelled request
    refine ⟨?_, fun attributes mem => ?_, fun reference payload vars mem => ?_⟩
    · rw [stageCallsOf, List.filterMap_eq_nil_iff]
      intro request mem
      cases request with
      | operate position call =>
          obtain same | ⟨reference, payload, vars, same⟩ := (windsUp mem rfl).look_or_transform
          · cases same
          · cases same
      | _ => rfl
    · obtain same | ⟨reference, payload, vars, same⟩ := (windsUp mem rfl).look_or_transform
      · cases same
      · cases same
    · exact (windsUp mem rfl).finishesRead
  · exact fun vars position bound reason resolves acquires begins present left cancelled =>
      run.stops_of_cancelled around _ present resolves acquires begins left cancelled
  · exact fun position call error shown fails =>
      run.value_of_stageFails around _ shown fails
  · exact run.exec_quiet_of_late around _

/-- The first of two stages cancels the token, and the second is not called any more. -/
theorem relay_heeds_token :
    let first : StageScript := { name := "first", cancel := some "enough" }
    let around : Surroundings :=
      { transformer := some .tagging, stages := [first.stage 0 0, .idle 1 "second"] }
    let tokens := Surroundings.cancelling ⟨[.untouched, .untouched]⟩ [(1, "elsewhere")]
    let execution := relay.program.exec around.answer tokens
    execution.value =
        .error ⟨"relay", "1", .cancelled "enough (before stage 'second')"⟩ ∧
      callsOf execution.trace =
        [.acquire "main", .setAutoCommit false, .rollback, .release "main"] := by
  intro first around tokens execution
  have heeds := relay.heeds_token around ⟨[.untouched, .untouched]⟩ [(1, "elsewhere")] rfl
  have calls : stageCallsOf execution.trace =
      [(0, relay.callOf .empty .write (some (.text "order")))] := by decide +kernel
  have left : ∀ earlier < 1, ∃ result,
      relay.Left around .empty (stageCallsOf execution.trace) earlier result := by
    intro earlier before
    obtain rfl : earlier = 0 := Nat.lt_one_iff.mp before
    rw [calls]
    exact ⟨_, relay.pipeline.stages[0], _, .nothing, .text "order", rfl, List.mem_cons_self, rfl,
      rfl, rfl⟩
  have asked : firstReason ([(1, "elsewhere")] ++
      around.cancelsOf ((stageCallsOf execution.trace).take 1)) relay.token = some "enough" := by
    rw [calls]
    rfl
  have stopped := heeds.stops .empty 1 relay.pipeline.stages[1] "enough" rfl rfl rfl rfl left asked
  exact ⟨stopped.1.trans rfl, stopped.2⟩

end Run

end DocPipeline
