import DocPipeline.Proofs.Run.StageCalls
import DocPipeline.Proofs.Pipeline.Setup

/-!
# Payloads along a run

What every stage receives, told without the slots that a run fills on its way: what the caller
brings, or what the last stage before it has left that writes the slot from which it takes its
input, transformed for the stage. What a stage leaves depends on the mode of the run and on the
direction of the stage.

## Main definitions

* `Run.Leaves`: the payload that a stage leaves.
* `Run.Feeds`: the payload that is transformed for a stage.
* `Run.IsTurn`: what is in the account of the turn of a stage.

## Main results

* `Run.through_store`: what is in a slot after some turns.
* `Run.calls_receive_sources`: what the stages of a run receive.
-/

namespace DocPipeline

/-! ### Slots after turns -/

/-- **A slot after some turns** holds what its last writer has left, or else what was there before.
-/
theorem Progress.through_store (progress : Progress) (accounts : List Account) (slot : String) :
    (progress.through accounts).store.get? slot =
      match lastWriter? (accounts.map (·.stage.outputSlot)) slot with
      | some writer => (accounts[writer]?).map (·.result)
      | none => progress.store.get? slot := by
  induction accounts using List.reverseRecOn with
  | nil => rfl
  | append_singleton accounts account ih =>
      rw [through, List.foldl_append, List.foldl_cons, List.foldl_nil, ← through, add,
        SlotStore.get?_put, List.map_append, List.map_singleton, lastWriter?_append_singleton,
        List.length_map]
      split
      · simp
      · rw [ih]
        cases last : lastWriter? (accounts.map (·.stage.outputSlot)) slot with
        | none => rfl
        | some writer =>
            obtain ⟨-, found, -⟩ := lastWriter?_eq_some_iff.mp last
            have within := (List.getElem?_eq_some_iff.mp found).1
            rw [List.length_map] at within
            exact congrArg (·.map (·.result)) (List.getElem?_append_left within).symm

/-! ### Turns that come to pass -/

/-- A stage that is called comes behind turns without a failure, and its own turn gets as far as the
call. -/
theorem getElem?_of_lt_operations {accounts : List Account} {position : Nat}
    (called : position < operations (accounts.flatMap Account.hurdles)) :
    ∃ account, accounts[position]? = some account ∧ operations account.hurdles = 1 ∧
      ∀ earlier ∈ accounts.take position, earlier.failure = none := by
  induction accounts generalizing position with
  | nil => exact absurd called (Nat.not_lt_zero position)
  | cons account rest ih =>
      obtain ⟨atMostOne, one⟩ := account.operations_hurdles
      rw [List.flatMap_cons, operations_append, ← Account.failure] at called
      cases position with
      | zero =>
          refine ⟨account, rfl, ?_, by simp⟩
          cases fails : account.failure with
          | none => exact one fails
          | some error =>
              simp only [fails, Option.isNone_some, Bool.false_eq_true, reduceIte] at called
              omega
      | succ position =>
          cases fails : account.failure with
          | none =>
              simp only [fails, Option.isNone_none, reduceIte, one fails] at called
              have behind : position < operations (rest.flatMap Account.hurdles) := by omega
              obtain ⟨later, found, calls, earlier⟩ := ih behind
              refine ⟨later, found, calls, fun other mem => ?_⟩
              rw [List.take_succ_cons] at mem
              rcases List.mem_cons.mp mem with rfl | mem
              · exact fails
              · exact earlier other mem
          | some error =>
              simp only [fails, Option.isNone_some, Bool.false_eq_true, reduceIte] at called
              omega

namespace Run

variable (run : Run) (around : Surroundings) (vars : Variables) (tokens : TokenPool)

/-- Each account starts from the slots that the turns before it leave. -/
theorem accountsFrom_getElem? {position index : Nat} {stages : List BoundStage}
    (progress : Progress) {account : Account}
    (found : (run.accountsFrom around vars position stages progress.store tokens)[index]? =
      some account) :
    ∃ bound between, stages[index]? = some bound ∧
      account = run.account around vars
        (progress.through ((run.accountsFrom around vars position stages progress.store
          tokens).take index)).store between (position + index) bound.config := by
  -- along the accounts, the slots are those that the turns so far have left
  induction index generalizing position stages progress tokens with
  | zero =>
      cases stages with
      | nil => cases found
      | cons bound rest =>
          obtain rfl := Option.some.inj found
          exact ⟨bound, tokens, rfl, rfl⟩
  | succ index ih =>
      cases stages with
      | nil => cases found
      | cons bound rest =>
          simp only [accountsFrom, List.getElem?_cons_succ] at found
          generalize made :
            run.account around vars progress.store tokens position bound.config = first at found
          have sameStage : first.stage = bound.config := by
            rw [← made, account_stage]
          obtain ⟨later, between, present, same⟩ :=
            ih _ (progress.add bound.config.outputSlot first.result) found
          refine ⟨later, between, present, ?_⟩
          rw [same]
          simp only [accountsFrom, made, List.take_succ_cons, Progress.through_cons, sameStage]
          rw [Nat.add_assoc, Nat.add_comm 1]
          rfl

/-- The turns write the slots of their stages. -/
theorem accountsFrom_slots (position : Nat) (stages : List BoundStage) (store : SlotStore) :
    (run.accountsFrom around vars position stages store tokens).map (·.stage.outputSlot) =
      stages.map (·.config.outputSlot) := by
  induction stages generalizing position store tokens with
  | nil => rfl
  | cons bound rest ih => simp only [accountsFrom, List.map_cons, account_stage, ih]

/-! ### What a stage leaves -/

@[simp] theorem withPayload_payload (report : StageResult) :
    report.withPayload report.payload = report := rfl

/-- The payload that a stage leaves, of what it was sent and what it reports. Reading runs transform
what was read. Executing runs take what was read for a document where it writes one, before they
transform it, and keep what was sent in place of what a write reports and of what is reported empty.
All other payloads are left as they are reported. -/
def Leaves (stage : StageConfig) (call : StageCall) (report : StageResult) (payload : Payload) :
    Prop :=
  match run.mode, stage.mode with
  | .push, _ | .call, _ | .pull, .toDatabase => payload = report.payload
  | .pull, .natural | .pull, .fromDatabase =>
    around.transformed stage vars report.payload = .ok payload
  | .execute, .toDatabase => call.payload = some payload
  | .execute, .fromDatabase =>
    around.transformed stage vars report.payload.asDocumentOrBytes = .ok payload
  | .execute, .natural =>
    if report.payload.isEmpty then call.payload = some payload else payload = report.payload

/-- What is kept of the report on something written. -/
theorem kept_leaves {stage : StageConfig} {operation : Operation}
    (writes : run.mode.operation stage.mode = operation) (notRead : operation ≠ .read)
    (sent : Payload) (report : StageResult) :
    ∃ payload, run.Leaves around vars stage (run.callOf vars operation (some sent)) report payload ∧
      run.kept operation sent report = report.withPayload payload := by
  cases mode : run.mode with
  | push => exact ⟨report.payload, by simp [Leaves, mode], by simp [kept, mode]⟩
  | call => exact ⟨report.payload, by simp [Leaves, mode], by simp [kept, mode]⟩
  | pull =>
      rw [mode] at writes
      cases forced : stage.mode with
      | toDatabase => exact ⟨report.payload, by simp [Leaves, mode, forced], by simp [kept, mode]⟩
      | natural =>
          rw [forced] at writes
          exact absurd writes.symm notRead
      | fromDatabase =>
          rw [forced] at writes
          exact absurd writes.symm notRead
  | execute =>
      rw [mode] at writes
      cases forced : stage.mode with
      | toDatabase =>
          rw [forced] at writes
          subst writes
          exact ⟨sent, by simp [Leaves, mode, forced, callOf],
            by simp [kept, mode, ExecutionMode.operation]⟩
      | fromDatabase =>
          rw [forced] at writes
          exact absurd writes.symm notRead
      | natural =>
          rw [forced] at writes
          subst writes
          cases vacant : report.payload.isEmpty with
          | true =>
              exact ⟨sent, by simp [Leaves, mode, forced, vacant, callOf],
                by simp [kept, mode, vacant, ExecutionMode.operation]⟩
          | false =>
              exact ⟨report.payload, by simp [Leaves, mode, forced, vacant],
                by simp [kept, mode, vacant, ExecutionMode.operation]⟩

/-- What a stage that only reads leaves is what was read, transformed. -/
theorem leaves_iff_of_read {stage : StageConfig} (reads : run.mode.operation stage.mode = .read)
    {payload : Payload} {report : StageResult} (call : StageCall) :
    run.Leaves around vars stage call report payload ↔
      around.transformed stage vars (run.raw report.payload) = .ok payload := by
  rw [raw]
  cases mode : run.mode with
  | push => rw [mode] at reads; cases reads
  | call => rw [mode] at reads; cases reads
  | pull =>
      cases forced : stage.mode with
      | toDatabase => rw [mode, forced] at reads; cases reads
      | natural => simp [Leaves, mode, forced]
      | fromDatabase => simp [Leaves, mode, forced]
  | execute =>
      cases forced : stage.mode with
      | toDatabase => rw [mode, forced] at reads; cases reads
      | natural => rw [mode, forced] at reads; cases reads
      | fromDatabase => simp [Leaves, mode, forced]

/-- The turn of a stage that reads, part by part. -/
theorem account_of_read (store : SlotStore) (position : Nat) (stage : StageConfig)
    (reads : run.mode.operation stage.mode = .read) :
    let account := run.account around vars store tokens position stage
    account.report = (around.operate position account.call).outcome ∧
      account.given = run.raw (account.report.toOption.getD .nothing).payload ∧
      account.transformed = around.transformed stage vars account.given := by
  rw [account.eq_def]
  split
  · exact ⟨rfl, rfl, rfl⟩
  · next writes => exact absurd reads writes

/-- The turn of a stage that writes, part by part. -/
theorem account_of_write (store : SlotStore) (position : Nat) (stage : StageConfig)
    (notRead : run.mode.operation stage.mode ≠ .read) :
    let account := run.account around vars store tokens position stage
    let operation := run.mode.operation stage.mode
    let sent := account.transformed.toOption.getD .empty
    account.transformed = around.transformed stage vars (run.source store stage) ∧
      account.call = run.callOf vars operation (some sent) ∧
      account.report = (around.operate position account.call).outcome ∧
      account.result = run.kept operation sent (account.report.toOption.getD .nothing) := by
  rw [account.eq_def]
  split
  · next reads => exact absurd reads notRead
  · exact ⟨rfl, rfl, rfl, rfl⟩

/-- What the stage of a turn answers. -/
theorem account_report (store : SlotStore) (position : Nat) (stage : StageConfig) :
    (run.account around vars store tokens position stage).report =
      (around.operate position
        (run.account around vars store tokens position stage).call).outcome := by
  rw [account.eq_def]
  split <;> rfl

/-- A stage is called with the variables of its turn. -/
theorem account_vars (store : SlotStore) (position : Nat) (stage : StageConfig) :
    (run.account around vars store tokens position stage).call.vars = vars := by
  rw [account.eq_def]
  split <;> rfl

/-- What is left by a turn without a failure: the report with the payload that the stage leaves. -/
theorem account_result (store : SlotStore) (position : Nat) (stage : StageConfig)
    (succeeds : (run.account around vars store tokens position stage).failure = none) :
    let account := run.account around vars store tokens position stage
    ∃ report payload, (around.operate position account.call).outcome = .ok report ∧
      run.Leaves around vars stage account.call report payload ∧
      account.result = report.withPayload payload := by
  intro account
  obtain ⟨-, ⟨sent, transforms⟩, report, reports⟩ := account.failure_eq_none_iff.mp succeeds
  by_cases reads : run.mode.operation stage.mode = .read
  · simp only [account, Run.account, reads] at transforms reports ⊢
    simp only [reports, Except.toOption, Option.getD_some] at transforms ⊢
    rw [transforms]
    exact ⟨report, sent, rfl, (run.leaves_iff_of_read around vars reads _).mpr transforms, rfl⟩
  · obtain ⟨-, called, answered, result⟩ :=
      run.account_of_write around vars tokens store position stage reads
    rw [transforms] at called result
    rw [reports] at answered result
    obtain ⟨payload, leaves, keeps⟩ := run.kept_leaves around vars rfl reads sent report
    rw [called] at answered ⊢
    exact ⟨report, payload, answered.symm, leaves, result.trans keeps⟩

/-- What a stage is called with: nothing to write if it only reads, and otherwise the payload for
it, transformed. -/
theorem account_call (store : SlotStore) (position : Nat) (stage : StageConfig)
    (called : operations (run.account around vars store tokens position stage).hurdles = 1) :
    let account := run.account around vars store tokens position stage
    match run.mode.operation stage.mode with
    | .read => account.call = run.callOf vars .read none
    | operation => ∃ payload, around.transformed stage vars (run.source store stage) = .ok payload ∧
        account.call = run.callOf vars operation (some payload) := by
  intro account
  by_cases reads : run.mode.operation stage.mode = .read
  · simp only [account, Run.account, reads]
  · obtain ⟨transformed, sends, -, -⟩ :=
      run.account_of_write around vars tokens store position stage reads
    have writes : account.call.operation ≠ .read := by
      rwa [run.account_operation around vars tokens store position stage]
    obtain ⟨payload, transforms⟩ := account.transformed_of_called writes called
    rw [transforms] at transformed sends
    split
    · next same => exact absurd same reads
    · exact ⟨payload, transformed.symm, sends⟩

/-! ### What a stage receives -/

/-- What the caller brings is found where a run begins, or else nothing is. -/
theorem beginning_source (slot : String) :
    ((run.beginning.store.get? slot).map (·.payload)).getD run.input = run.input := by
  rw [beginning.eq_def]
  split
  · rw [SlotStore.get?_put]
    split
    · rfl
    · rfl
  · rfl

/-- What the stage at a position has left, by the call of it among some calls: what it reports, with
the payload that it leaves. -/
def Left (calls : List (Nat × StageCall)) (position : Nat) (result : StageResult) : Prop :=
  ∃ bound call report payload, run.pipeline.stages[position]? = some bound ∧
    (position, call) ∈ calls ∧ (around.operate position call).outcome = .ok report ∧
    run.Leaves around vars bound.config call report payload ∧ result = report.withPayload payload

/-- The payload that is transformed for the stage at a position. Writing and calling runs give every
stage what the caller brings. Reading and executing runs do so only if no stage before it writes the
slot that it takes its input from; otherwise it gets what the last such stage has left. -/
def Feeds (calls : List (Nat × StageCall)) (position : Nat) (stage : StageConfig)
    (source : Payload) : Prop :=
  match run.mode with
  | .push | .call => source = run.input
  | .pull | .execute =>
    match lastWriter? (run.pipeline.slots.take position) stage.inputSlot with
    | some writer => ∃ result, run.Left around vars calls writer result ∧ source = result.payload
    | none => source = run.input

/-- The turn at a position starts from the slots that the turns before it leave. -/
theorem turnAccounts_getElem? {position : Nat} {account : Account}
    (found : (run.turnAccounts around tokens)[position]? = some account) :
    ∃ bound between, run.pipeline.stages[position]? = some bound ∧
      account = run.account around run.bindings
        (run.beginning.through ((run.turnAccounts around tokens).take position)).store between
        position bound.config := by
  obtain ⟨bound, between, present, same⟩ :=
    run.accountsFrom_getElem? around run.bindings tokens run.beginning found
  rw [Nat.zero_add] at same
  exact ⟨bound, between, present, same⟩

/-- An account is that of the turn of a stage at a position: whose turn it is, what the stage is
called with and answers, and what is made of the answer if the stage only reads. -/
structure IsTurn (index : Nat) (turned : StageConfig) (account : Account) : Prop where
  position : account.position = index
  stage : account.stage = turned
  operation : account.call.operation = run.mode.operation turned.mode
  vars : account.call.vars = run.bindings
  report : account.report = (around.operate index account.call).outcome
  given : run.mode.operation turned.mode = .read →
    account.given = run.raw (account.report.toOption.getD .nothing).payload
  transformed : run.mode.operation turned.mode = .read →
    account.transformed = around.transformed turned run.bindings account.given

/-- **The turn at a position** is that of the stage there. -/
theorem isTurn_of_getElem? {position : Nat} {account : Account}
    (found : (run.turnAccounts around tokens)[position]? = some account) :
    ∃ bound, run.pipeline.stages[position]? = some bound ∧
      run.IsTurn around position bound.config account := by
  obtain ⟨bound, between, present, rfl⟩ := run.turnAccounts_getElem? around tokens found
  have ofRead := run.account_of_read around run.bindings between
    (run.beginning.through ((run.turnAccounts around tokens).take position)).store position
    bound.config
  exact ⟨bound, present, run.account_position .., run.account_stage .., run.account_operation ..,
    run.account_vars .., run.account_report .., fun reads => (ofRead reads).2.1,
    fun reads => (ofRead reads).2.2⟩

/-- The calls of stages in a run are those of the turns that come to pass. -/
theorem mem_stageCallsOf_iff {position : Nat} {call : StageCall} :
    (position, call) ∈ stageCallsOf (run.program.exec around.answer tokens).trace ↔
      position < operations (run.hurdles around tokens) ∧
        ∃ account, (run.turnAccounts around tokens)[position]? = some account ∧
          account.call = call := by
  rw [(run.program_stages around tokens).1, List.mem_iff_getElem?]
  have samePosition {index : Nat} {account : Account}
      (found : (run.turnAccounts around tokens)[index]? = some account) :
      account.position = index := by
    obtain ⟨bound, between, -, rfl⟩ := run.turnAccounts_getElem? around tokens found
    exact run.account_position around run.bindings _ _ _ _
  constructor
  · rintro ⟨index, found⟩
    rw [List.getElem?_take] at found
    split at found
    · next within =>
        rw [List.getElem?_map, Option.map_eq_some_iff] at found
        obtain ⟨account, found, same⟩ := found
        obtain ⟨rfl, rfl⟩ := Prod.mk.inj same
        rw [samePosition found]
        exact ⟨within, account, found, rfl⟩
    · cases found
  · rintro ⟨within, account, found, rfl⟩
    refine ⟨position, ?_⟩
    rw [List.getElem?_take, if_pos within, List.getElem?_map, found, ← samePosition found]
    rfl

/-- Stages are called with the variables of the run, and behind turns without a failure. -/
theorem turn_of_called {position : Nat}
    (called : position < operations (run.hurdles around tokens)) :
    run.resolved = .ok run.bindings ∧
      ∃ account, (run.turnAccounts around tokens)[position]? = some account ∧
        operations account.hurdles = 1 ∧
        ∀ earlier ∈ (run.turnAccounts around tokens).take position, earlier.failure = none := by
  rw [operations_hurdles] at called
  split at called
  · next opens =>
      exact ⟨((run.firstFailure_opening_eq_none_iff around).mp opens).1,
        getElem?_of_lt_operations called⟩
  · exact absurd called (Nat.not_lt_zero position)

/-- A turn without a failure leaves in its slot what its stage leaves. -/
theorem left_of_succeeded {position : Nat} {account : Account}
    (called : position < operations (run.hurdles around tokens))
    (found : (run.turnAccounts around tokens)[position]? = some account)
    (succeeds : account.failure = none) :
    run.Left around run.bindings (stageCallsOf (run.program.exec around.answer tokens).trace)
      position account.result := by
  obtain ⟨bound, between, present, same⟩ := run.turnAccounts_getElem? around tokens found
  obtain ⟨report, payload, reports, leaves, result⟩ :=
    run.account_result around run.bindings between _ position bound.config (same ▸ succeeds)
  rw [← same] at reports leaves result
  have shown := (run.mem_stageCallsOf_iff around tokens).mpr ⟨called, account, found, rfl⟩
  exact ⟨bound, account.call, report, payload, present, shown, reports, leaves, result⟩

/-- What a called stage takes is what feeds it. -/
theorem source_feeds {position : Nat} (called : position < operations (run.hurdles around tokens))
    (stage : StageConfig) :
    run.Feeds around run.bindings
      (stageCallsOf (run.program.exec around.answer tokens).trace) position stage
      (run.source (run.beginning.through ((run.turnAccounts around tokens).take position)).store
        stage) := by
  have slots : ((run.turnAccounts around tokens).take position).map (·.stage.outputSlot) =
      run.pipeline.slots.take position := by
    rw [List.map_take, turnAccounts, accounts, accountsFrom_slots, Pipeline.slots]
  obtain ⟨-, -, -, -, earlier⟩ := run.turn_of_called around tokens called
  -- what is in the slot was left by its last writer, or was there when the run began
  rw [Feeds, source, Progress.through_store, slots]
  cases last : lastWriter? (run.pipeline.slots.take position) stage.inputSlot with
  | none =>
      cases run.mode with
      | push => rfl
      | call => rfl
      | pull => exact run.beginning_source stage.inputSlot
      | execute => exact run.beginning_source stage.inputSlot
  | some writer =>
      have before : writer < position := by
        obtain ⟨-, found, -⟩ := lastWriter?_eq_some_iff.mp last
        rw [List.getElem?_take] at found
        split at found
        · next before => exact before
        · cases found
      have sooner := Nat.lt_trans before called
      obtain ⟨-, account, found, -, -⟩ := run.turn_of_called around tokens sooner
      have within : ((run.turnAccounts around tokens).take position)[writer]? = some account := by
        rw [List.getElem?_take, if_pos before, found]
      have left := run.left_of_succeeded around tokens sooner found
        (earlier account (List.mem_of_getElem? within))
      simp only [within, Option.map_some, Option.getD_some]
      cases run.mode with
      | push => rfl
      | call => rfl
      | pull => exact ⟨account.result, left, rfl⟩
      | execute => exact ⟨account.result, left, rfl⟩

/-- **What stages receive.** A stage that only reads is called with nothing to write. Any other
stage is called with the payload that feeds it, transformed for it: what the caller brings, or what
the last stage before it has left that writes the slot of its input. -/
theorem calls_receive_sources (run : Run) (around : Surroundings) (tokens : TokenPool) :
    let calls := stageCallsOf (run.program.exec around.answer tokens).trace
    ∀ position call, (position, call) ∈ calls →
      ∃ vars bound, run.resolved = .ok vars ∧ run.pipeline.stages[position]? = some bound ∧
        match run.mode.operation bound.config.mode with
        | .read => call = run.callOf vars .read none
        | operation => ∃ source payload, run.Feeds around vars calls position bound.config source ∧
            around.transformed bound.config vars source = .ok payload ∧
            call = run.callOf vars operation (some payload) := by
  intro calls position call mem
  obtain ⟨called, account, found, rfl⟩ := (run.mem_stageCallsOf_iff around tokens).mp mem
  obtain ⟨resolves, other, present, calls, -⟩ := run.turn_of_called around tokens called
  obtain rfl : other = account := Option.some.inj (present.symm.trans found)
  obtain ⟨bound, between, there, same⟩ := run.turnAccounts_getElem? around tokens found
  have feeds := run.source_feeds around tokens called bound.config
  have sent := run.account_call around run.bindings between _ position bound.config (same ▸ calls)
  rw [← same] at sent
  refine ⟨run.bindings, bound, resolves, there, ?_⟩
  revert sent
  split
  · intro sent
    exact sent
  · rintro ⟨payload, transforms, sends⟩
    exact ⟨_, payload, feeds, transforms, sends⟩

/-- The second stage receives what the first has left, with a note. -/
theorem relay_receives :
    let around : Surroundings :=
      { transformer := some .tagging, stages := relay.pipeline.stages.map (·.stage) }
    let calls := stageCallsOf (relay.program.exec around.answer {}).trace
    let call := relay.callOf .empty .writeThenRead (some (.text "note:order"))
    (1, call) ∈ calls ∧
      ∃ vars bound, relay.resolved = .ok vars ∧ relay.pipeline.stages[1]? = some bound ∧
        match relay.mode.operation bound.config.mode with
        | .read => call = relay.callOf vars .read none
        | operation => ∃ source payload,
            relay.Feeds around vars calls 1 bound.config source ∧
            around.transformed bound.config vars source = .ok payload ∧
            call = relay.callOf vars operation (some payload) := by
  intro around calls call
  have shown : (1, call) ∈ calls := by
    have both : calls = [(0, relay.callOf .empty .write (some (.text "order"))), (1, call)] := rfl
    simp [both]
  exact ⟨shown, relay.calls_receive_sources around {} 1 call shown⟩

end Run

end DocPipeline
