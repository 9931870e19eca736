import DocPipeline.Proofs.Run.StageCalls

/-!
# The first failure of a run

A run ends with the first of its steps that fails, and no stage behind that step is called. Whatever
goes wrong while a run rolls back, hands its connection back or lets its stages clean up changes
nothing about how the run ends.

## Main definitions

* `Run.plan`: the operations that the stages of a run are meant for.
* `Surroundings.WorksLike`: surroundings that differ in what happens after the work only.

## Main results

* `Run.carryOut_value`: how a run ends.
* `Run.ends_with_first_failure`: a run ends with its first failure, calls the stages up to it, and
  lets all stages clean up.
-/

namespace DocPipeline

namespace Run

variable (run : Run) (around : Surroundings) (vars : Variables) (tokens : TokenPool)

/-! ### How a run ends -/

/-- All turns and the conclusion, carried out. -/
theorem drive_value :
    (Attempt.exec around.answer tokens (run.drive run.transaction vars)).value =
      ((firstFailure ((run.accounts around vars tokens).flatMap Account.hurdles)).or
        (run.mergeFailure (run.beginning.through (run.accounts around vars tokens)).store)).elim
          (.ok (run.outputFor (run.beginning.through (run.accounts around vars tokens))))
          .error := by
  obtain ⟨value, -⟩ := run.turns_exec around vars tokens 0 run.pipeline.stages run.beginning
  rcases done : Attempt.exec around.answer tokens
    (run.turns run.transaction vars 0 run.pipeline.stages run.beginning) with
    ⟨outcome, between, requests⟩
  rw [done] at value
  obtain rfl : outcome = _ := value
  rw [drive]
  cases fails : firstFailure ((run.accounts around vars tokens).flatMap Account.hurdles) with
  | none =>
      rw [accounts] at fails
      rw [fails] at done
      rw [Attempt.exec_then_ok _ done]
      exact run.conclude_value around.answer between _
  | some error =>
      rw [accounts] at fails
      rw [fails] at done
      rw [Attempt.exec_then_error _ done]
      rfl

/-- **How a run ends** before its failure is given its place: with its first failure, or with what
can be read off the progress. -/
theorem carryOut_value :
    (run.carryOut.exec around.answer tokens).value =
      (firstFailure (run.hurdles around tokens)).elim
        (.ok (run.outputFor (run.finished around tokens))) .error := by
  rw [hurdles, opening, ending, finished]
  cases resolves : run.resolved with
  | error error =>
      rw [(run.carryOut_of_unresolved around tokens resolves).1]
      simp
  | ok vars =>
      have same := run.bindings_of_resolved resolves
      cases acquired : around.faults.answer (.acquire run.config.connectionName) with
      | error error =>
          rw [(run.carryOut_of_unacquired around tokens resolves acquired).1]
          simp
      | ok done =>
          rw [(run.carryOut_of_acquired around tokens resolves acquired).1, attained]
          cases begins : run.begun around with
          | error error => simp [settled]
          | ok done =>
              simp only [run.drive_value around vars tokens, turnAccounts, same, closed,
                firstFailure_append, firstFailure_cons, firstFailure_nil, mapError_ok,
                PipelineError.of?_ok, Option.none_or, Option.or_none]
              cases firstFailure ((run.accounts around vars tokens).flatMap Account.hurdles) with
              | some error => rfl
              | none =>
                  cases run.mergeFailure
                    (run.beginning.through (run.accounts around vars tokens)).store with
                  | some error => rfl
                  | none =>
                      simp only [Option.none_or, Option.elim_none, settled]
                      cases (if run.config.managesCommit then around.faults.answer .commit
                        else .ok () : Except DatabaseError Unit) with
                      | ok done => rfl
                      | error error => rfl

/-! ### The plan of a run -/

/-- What the stages of a run are asked to do, if nothing fails. -/
def plan : List (Nat × Operation) :=
  run.pipeline.stages.mapIdx fun position bound => (position, run.mode.operation bound.config.mode)

/-- The turns follow the plan. -/
theorem accountsFrom_operations (position : Nat) (stages : List BoundStage) (store : SlotStore) :
    (run.accountsFrom around vars position stages store tokens).map
        (fun account => (account.position, account.call.operation)) =
      stages.mapIdx fun index bound =>
        (position + index, run.mode.operation bound.config.mode) := by
  induction stages generalizing position store tokens with
  | nil => rfl
  | cons bound rest ih =>
      simp only [accountsFrom, List.map_cons, List.mapIdx_cons, account_position,
        account_operation, ih, Nat.add_zero, Nat.add_assoc, Nat.add_comm 1]

theorem turnAccounts_operations :
    (run.turnAccounts around tokens).map
      (fun account => (account.position, account.call.operation)) = run.plan := by
  simp [turnAccounts, accounts, accountsFrom_operations, plan]

theorem length_turnAccounts :
    (run.turnAccounts around tokens).length = run.pipeline.stages.length := by
  have same := congrArg List.length (run.turnAccounts_operations around tokens)
  rwa [List.length_map, plan, List.length_mapIdx] at same

/-- No more stages are called than there are, and all of them if nothing fails. -/
theorem operations_hurdles_le :
    operations (run.hurdles around tokens) ≤ run.pipeline.stages.length ∧
      (firstFailure (run.hurdles around tokens) = none →
        operations (run.hurdles around tokens) = run.pipeline.stages.length) := by
  obtain ⟨atMost, all⟩ := operations_flatMap_hurdles (run.turnAccounts around tokens)
  rw [length_turnAccounts] at atMost all
  rw [operations_hurdles]
  refine ⟨by split <;> omega, fun succeeds => ?_⟩
  rw [hurdles, firstFailure_append, firstFailure_append, Option.or_eq_none_iff,
    Option.or_eq_none_iff] at succeeds
  obtain ⟨⟨opens, turns⟩, -⟩ := succeeds
  rw [if_pos opens]
  exact all turns

end Run

/-! ### What does not matter -/

/-- Two surroundings that do the same up to the commit. What becomes of rollbacks, of releases and
of cleaning up may differ. -/
structure Surroundings.WorksLike (around other : Surroundings) : Prop where
  acquire : other.faults.acquire = around.faults.acquire
  setAutoCommit : other.faults.setAutoCommit = around.faults.setAutoCommit
  commit : other.faults.commit = around.faults.commit
  transformer : other.transformer = around.transformer
  operate : ∀ position call, other.operate position call = around.operate position call

namespace Surroundings.WorksLike

variable {around other : Surroundings} (alike : around.WorksLike other) (run : Run)
  (vars : Variables) (tokens : TokenPool)

include alike

theorem transformed_eq (stage : StageConfig) (payload : Payload) :
    other.transformed stage vars payload = around.transformed stage vars payload := by
  rw [transformed, transformed, alike.transformer]

theorem account_eq (store : SlotStore) (position : Nat) (stage : StageConfig) :
    run.account other vars store tokens position stage =
      run.account around vars store tokens position stage := by
  simp only [Run.account, alike.transformed_eq, alike.operate]

theorem accountsFrom_eq (position : Nat) (stages : List BoundStage) (store : SlotStore) :
    run.accountsFrom other vars position stages store tokens =
      run.accountsFrom around vars position stages store tokens := by
  induction stages generalizing position store tokens with
  | nil => rfl
  | cons bound rest ih =>
      simp only [Run.accountsFrom, Account.tokensAfter, alike.account_eq, alike.operate, ih]

/-- The steps of a run come to the same. -/
theorem hurdles_eq : run.hurdles other tokens = run.hurdles around tokens := by
  have acquired (name : String) :
      other.faults.answer (.acquire name) = around.faults.answer (.acquire name) := by
    simp only [ConnectionFaults.answer, ConnectionFaults.error?, alike.acquire]
  have begins (enabled : Bool) :
      other.faults.answer (.setAutoCommit enabled) =
        around.faults.answer (.setAutoCommit enabled) := by
    simp only [ConnectionFaults.answer, ConnectionFaults.error?, alike.setAutoCommit]
  have committed : other.faults.answer .commit = around.faults.answer .commit := by
    simp only [ConnectionFaults.answer, ConnectionFaults.error?, alike.commit]
  simp only [Run.hurdles, Run.opening, Run.ending, Run.finished, Run.turnAccounts, Run.accounts,
    Run.begun, Run.closed, alike.accountsFrom_eq, acquired, begins, committed]

/-- And so does what a run hands back. -/
theorem finished_eq : run.finished other tokens = run.finished around tokens := by
  simp only [Run.finished, Run.turnAccounts, Run.accounts, alike.accountsFrom_eq]

end Surroundings.WorksLike

/-! ### The first failure -/

namespace Run

variable (run : Run) (around : Surroundings) (tokens : TokenPool)

/-- How a whole run ends. -/
theorem program_value :
    (run.program.exec around.answer tokens).value =
      (firstFailure (run.hurdles around tokens)).elim
        (.ok (run.outputFor (run.finished around tokens)))
        fun error => .error ⟨run.config.name, run.id, error⟩ := by
  obtain ⟨value, -, -⟩ := run.program_spec around tokens
  rw [value, carryOut_value]
  cases firstFailure (run.hurdles around tokens) with
  | none => rfl
  | some error => rfl

/-- **The first failure of a run.** A run ends with the failure of the first of its steps that
fails, and succeeds if none of them does. It calls its stages by its plan, once each, up to that
failure and not any further. When all the rest is done, every stage cleans up, whatever has
happened. And how a run ends does not depend on what becomes of its rollback, of its release or of
cleaning up. -/
theorem ends_with_first_failure (run : Run) (around : Surroundings) (tokens : TokenPool) :
    let execution := run.program.exec around.answer tokens
    let hurdles := run.hurdles around tokens
    execution.value =
        (firstFailure hurdles).elim (.ok (run.outputFor (run.finished around tokens)))
          (fun error => .error ⟨run.config.name, run.id, error⟩) ∧
      (stageCallsOf execution.trace).map (fun (position, call) => (position, call.operation)) =
        run.plan.take (operations hurdles) ∧
      operations hurdles ≤ run.pipeline.stages.length ∧
      (firstFailure hurdles = none → operations hurdles = run.pipeline.stages.length) ∧
      (∃ before after, execution.trace = before ++ after ∧ cleanUpsOf before = [] ∧
        stageCallsOf after = [] ∧ callsOf after = [] ∧
        cleanUpsOf after = List.range run.pipeline.stages.length) ∧
      ∀ other, around.WorksLike other →
        (run.program.exec other.answer tokens).value = execution.value := by
  obtain ⟨calls, cleans⟩ := run.program_stages around tokens
  obtain ⟨atMost, all⟩ := run.operations_hurdles_le around tokens
  refine ⟨run.program_value around tokens, ?_, atMost, all, cleans, fun other alike => ?_⟩
  · rw [calls, List.map_take, List.map_map, ← run.turnAccounts_operations around tokens]
    rfl
  · rw [program_value, program_value, alike.hurdles_eq, alike.finished_eq]

/-- What goes wrong at the release and while the stages clean up does not make a run fail. -/
theorem relay_succeeds :
    let around : Surroundings :=
      { transformer := some .tagging, stages := relay.pipeline.stages.map (·.stage) }
    let other : Surroundings :=
      { around with
        faults := { rollback := true, release := true }
        stages := around.stages.map ({ · with cleanUp := .error Surroundings.absent }) }
    (stageCallsOf (relay.program.exec around.answer {}).trace).map
        (fun (position, call) => (position, call.operation)) =
          [(0, .write), (1, .writeThenRead)] ∧
      (relay.program.exec other.answer {}).value =
        .ok (.result (.ofPayload (.text "note:order"))) := by
  intro around other
  obtain ⟨value, calls, -, all, -, same⟩ := relay.ends_with_first_failure around {}
  have succeeds : firstFailure (relay.hurdles around {}) = none := rfl
  have alike : around.WorksLike other := by
    refine ⟨rfl, rfl, rfl, rfl, fun position call => ?_⟩
    match position with
    | 0 | 1 => rfl
    | _ + 2 => rfl
  have handedBack : relay.outputFor (relay.finished around {}) =
      .result (.ofPayload (.text "note:order")) := by
    decide
  rw [all succeeds] at calls
  rw [succeeds, handedBack] at value
  exact ⟨calls, (same other alike).trans value⟩

end Run

end DocPipeline
