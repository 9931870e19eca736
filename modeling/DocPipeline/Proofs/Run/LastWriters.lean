import DocPipeline.Proofs.Run.Report

/-!
# What reading and calling runs hand back

When all stages of a run have had their turns, every slot holds what its last writer has left. In a
reading run, the slot that the first stage takes its input from holds what the caller brings until
some stage writes it. Reading runs hand back what is in the output slot, or the document that the
merge rules make of the slots; calling runs know nothing of merge rules, nor of what the caller
brings.

## Main definitions

* `Run.LeavesAll`: the results that the stages of a run have left.
* `Run.broughtIn`, `Run.storedIn`: what is in a slot at first, and at the end.
* `Run.PulledPayload`: the payload that a reading run hands back.

## Main results

* `Run.turns_end`: how the turns of a run end.
* `Run.last_writers_decide`: what reading and calling runs hand back, and which stage a slot shows.
-/

namespace DocPipeline

namespace Run

/-! ### What is in a slot -/

section Slots

variable (run : Run)

/-- What is in a slot before any stage has worked. Reading runs keep what the caller brings where
the first stage takes its input from, unless that slot has no name. -/
def broughtIn (slot : String) : Option StageResult :=
  if run.mode = .pull ∧ slot ≠ "" ∧
      run.pipeline.stages.head?.map (·.config.inputSlot) = some slot then
    some (.ofPayload run.input)
  else none

/-- What is in a slot at the end: what the last stage that writes it has left, or else what was
brought there. -/
def storedIn (results : List StageResult) (slot : String) : Option StageResult :=
  (run.finalIn results slot).or (run.broughtIn slot)

/-- The payload that a reading run hands back: the one in the output slot, if there is any, or the
document that the merge rules make of what is in their slots. -/
def PulledPayload (results : List StageResult) (payload : Payload) : Prop :=
  match run.pipeline.mergePlan with
  | none => payload = ((run.storedIn results run.config.outputSlot).map (·.payload)).getD .empty
  | some plan => ∃ store root, (∀ slot, store.get? slot = run.storedIn results slot) ∧
      plan.apply store = .ok root ∧ payload = .document root

/-- A run begins with what is brought to its slots. -/
theorem beginning_get? (slot : String) : run.beginning.store.get? slot = run.broughtIn slot := by
  rw [broughtIn, beginning.eq_def]
  split
  · next first rest pulls stages =>
      rw [SlotStore.get?_put, pulls, stages, List.head?_cons, Option.map_some]
      by_cases writes : first.config.inputSlot ≠ "" ∧ first.config.inputSlot = slot
      · obtain ⟨named, rfl⟩ := writes
        rw [if_pos ⟨named, rfl⟩, if_pos ⟨rfl, named, rfl⟩]
      · rw [if_neg writes, if_neg]
        · rfl
        · rintro ⟨-, named, same⟩
          obtain rfl := Option.some.inj same
          exact writes ⟨named, rfl⟩
  · next others =>
      rw [if_neg]
      · rfl
      · rintro ⟨pulls, -, first⟩
        cases stages : run.pipeline.stages with
        | nil =>
            rw [stages] at first
            cases first
        | cons bound rest => exact others bound rest pulls stages

/-- No run begins with results. -/
theorem beginning_results : run.beginning.results = [] := by
  rw [beginning.eq_def]
  split <;> rfl

/-- What is brought to a slot matters in reading runs only. -/
theorem storedIn_of_not_pull (notPull : run.mode ≠ .pull) (results : List StageResult)
    (slot : String) : run.storedIn results slot = run.finalIn results slot := by
  rw [storedIn, broughtIn, if_neg fun reads => notPull reads.1, Option.or_none]

end Slots

variable (run : Run) (around : Surroundings) (vars : Variables) (tokens : TokenPool)

/-! ### The end of the turns -/

/-- All stages have left a result, each by its call among some calls. -/
structure LeavesAll (calls : List (Nat × StageCall)) (results : List StageResult) : Prop where
  length_eq : results.length = run.pipeline.stages.length
  left : ∀ position result, results[position]? = some result →
    run.Left around vars calls position result

/-- A slot that some stage writes holds what is left by the stage that the pipeline names for it. -/
theorem LeavesAll.storedIn_eq {run : Run} {around : Surroundings} {vars : Variables}
    {calls : List (Nat × StageCall)} {results : List StageResult}
    (leaves : run.LeavesAll around vars calls results) (setUp : run.pipeline.IsSetUp)
    {slot : String} (named : slot ≠ "") (written : slot ∈ run.pipeline.slots) :
    ∃ writer result, run.pipeline.outputIndex? slot = some writer ∧
      run.Left around vars calls writer result ∧ run.storedIn results slot = some result := by
  obtain ⟨writer, last⟩ := exists_lastWriter? named written
  have within : writer < results.length := by
    obtain ⟨-, found, -⟩ := lastWriter?_eq_some_iff.mp last
    have := (List.getElem?_eq_some_iff.mp found).1
    rwa [Pipeline.slots, List.length_map, ← leaves.length_eq] at this
  have found := List.getElem?_eq_getElem within
  refine ⟨writer, results[writer], (setUp.outputIndex?_eq slot).trans last,
    leaves.left writer _ found, ?_⟩
  rw [storedIn, finalIn, last, Option.bind_some, found, Option.some_or]

/-- The account of a turn that was called and did not fail tells what its stage has left. -/
theorem left_of_account {position : Nat} {account : Account} {calls : List (Nat × StageCall)}
    (found : (run.accounts around vars tokens)[position]? = some account)
    (succeeds : account.failure = none) (called : (position, account.call) ∈ calls) :
    run.Left around vars calls position account.result := by
  obtain ⟨bound, between, present, same⟩ :=
    run.accountsFrom_getElem? around vars tokens run.beginning found
  rw [Nat.zero_add] at same
  obtain ⟨report, payload, reports, leaves, result⟩ :=
    run.account_result around vars between _ position bound.config (same ▸ succeeds)
  rw [← same] at reports leaves result
  exact ⟨bound, account.call, report, payload, present, called, reports, leaves, result⟩

/-- The slots after some turns, all stages having had theirs. -/
theorem through_storedIn (slot : String) :
    (run.beginning.through (run.accounts around vars tokens)).store.get? slot =
      run.storedIn ((run.accounts around vars tokens).map (·.result)) slot := by
  have slots : (run.accounts around vars tokens).map (·.stage.outputSlot) = run.pipeline.slots :=
    run.accountsFrom_slots ..
  rw [Progress.through_store, slots, beginning_get?, storedIn, finalIn]
  cases last : lastWriter? run.pipeline.slots slot with
  | none => rfl
  | some writer =>
      obtain ⟨-, found, -⟩ := lastWriter?_eq_some_iff.mp last
      have within := (List.getElem?_eq_some_iff.mp found).1
      rw [← slots, List.length_map] at within
      simp [List.getElem?_eq_getElem within]

/-- Where all turns succeed, each stage is called in its turn. -/
theorem stageCallsOf_of_succeeded
    (succeeds : firstFailure ((run.accounts around vars tokens).flatMap Account.hurdles) = none) :
    stageCallsOf (run.requestsUpToFailure (run.accounts around vars tokens)) =
      (run.accounts around vars tokens).map fun account => (account.position, account.call) := by
  rw [stageCallsOf_requestsUpToFailure, (operations_flatMap_hurdles _).2 succeeds]
  exact List.take_of_length_le (Nat.le_of_eq (List.length_map _))

/-- Where all turns succeed, every stage has left the result of its turn. -/
theorem leavesAll_of_succeeded
    (succeeds : firstFailure ((run.accounts around vars tokens).flatMap Account.hurdles) = none) :
    let accounts := run.accounts around vars tokens
    run.LeavesAll around vars (stageCallsOf (run.requestsUpToFailure accounts))
      (accounts.map (·.result)) where
  length_eq := by
    have slots := congrArg List.length
      (run.accountsFrom_slots around vars tokens 0 run.pipeline.stages run.beginning.store)
    rw [List.length_map, List.length_map] at slots
    rw [List.length_map, accounts, slots]
  left := by
    intro position result stands
    rw [List.getElem?_map, Option.map_eq_some_iff] at stands
    obtain ⟨account, found, rfl⟩ := stands
    have mem := List.mem_of_getElem? found
    obtain ⟨bound, between, -, same⟩ :=
      run.accountsFrom_getElem? around vars tokens run.beginning found
    have there : account.position = position := by rw [same, account_position, Nat.zero_add]
    refine run.left_of_account around vars tokens found ?_ ?_
    · rw [firstFailure, List.findSome?_eq_none_iff] at succeeds
      rw [Account.failure, firstFailure, List.findSome?_eq_none_iff]
      exact fun hurdle within => succeeds hurdle (List.mem_flatMap_of_mem mem within)
    · rw [run.stageCallsOf_of_succeeded around vars tokens succeeds, ← there]
      exact List.mem_map_of_mem mem

/-- **How the turns of a run end**, if none of them fails: every stage has left a result, and the
slots hold what their last writers have left, or else what was brought there. -/
theorem turns_end {progress : Progress} :
    let execution := Attempt.exec around.answer tokens
      (run.turns run.transaction vars 0 run.pipeline.stages run.beginning)
    execution.value = .ok progress →
      run.LeavesAll around vars (stageCallsOf execution.trace) progress.results ∧
        ∀ slot, progress.store.get? slot = run.storedIn progress.results slot := by
  intro execution ended
  obtain ⟨value, trace⟩ := run.turns_exec around vars tokens 0 run.pipeline.stages run.beginning
  rw [← accounts] at value trace
  cases succeeds : firstFailure ((run.accounts around vars tokens).flatMap Account.hurdles) with
  | some error =>
      rw [succeeds] at value
      cases value.symm.trans ended
  | none =>
      rw [succeeds] at value
      obtain rfl := Except.ok.inj (value.symm.trans ended)
      rw [trace, through_results, beginning_results, List.nil_append]
      exact ⟨run.leavesAll_of_succeeded around vars tokens succeeds,
        run.through_storedIn around vars tokens⟩

/-! ### What is handed back -/

/-- In a run that succeeds, every stage has left a result. -/
theorem leavesAll_of_no_failure (succeeds : firstFailure (run.hurdles around tokens) = none) :
    run.LeavesAll around run.bindings
      (stageCallsOf (run.program.exec around.answer tokens).trace)
      ((run.turnAccounts around tokens).map (·.result)) where
  length_eq := by rw [List.length_map, length_turnAccounts]
  left _ _ := run.left_of_result around tokens succeeds

/-- The payload of a reading run is the one in the output slot, or the merged document. -/
theorem pulledPayload_of_no_failure (pulls : run.mode = .pull)
    (succeeds : firstFailure (run.hurdles around tokens) = none) :
    let store := (run.finished around tokens).store
    run.PulledPayload ((run.turnAccounts around tokens).map (·.result))
      (run.payloadIn store (run.outputIn store).payload) := by
  intro store
  have stored (slot : String) : store.get? slot =
      run.storedIn ((run.turnAccounts around tokens).map (·.result)) slot :=
    run.through_storedIn around run.bindings tokens slot
  obtain ⟨-, -, merges⟩ := run.of_no_failure around tokens succeeds
  rw [mergeFailure, pulls] at merges
  rw [PulledPayload, payloadIn]
  simp only [mergedIn] at merges ⊢
  cases plans : run.pipeline.mergePlan with
  | none =>
      rw [Option.map_none, Option.bind_none, Option.getD_none, outputIn, ← stored]
      cases store.get? run.config.outputSlot <;> rfl
  | some plan =>
      rw [plans] at merges
      simp only [Option.map_some, Option.bind_some] at merges ⊢
      cases applied : plan.apply store with
      | error error =>
          rw [applied] at merges
          cases merges
      | ok root => exact ⟨store, root, stored, applied, rfl⟩

/-- **The last writers decide.** A reading run that succeeds hands back what is in the output slot
when its stages have had their turns: what the last stage that writes the slot has left, or else
what the caller brings if the first stage takes its input from there, or else nothing. If there is a
merge plan, it hands back the document that the plan makes of all slots, filled in the same way. A
calling run hands back what the last stage that writes the output slot has left, or nothing,
whatever the merge rules are. And whenever the turns of a run come to their end, in a run of any
mode, each slot with a name that is written holds what is left by the stage that the pipeline names
for it. -/
theorem last_writers_decide (run : Run) (around : Surroundings) (tokens : TokenPool)
    (setUp : run.pipeline.IsSetUp) :
    (∀ output, (run.program.exec around.answer tokens).value = .ok output →
      ∃ vars results, run.resolved = .ok vars ∧
        run.LeavesAll around vars (stageCallsOf (run.program.exec around.answer tokens).trace)
          results ∧
        (run.mode = .pull →
          ∃ payload, run.PulledPayload results payload ∧ output = .payload payload) ∧
        (run.mode = .call → output = .payload (run.finalOutput results).payload)) ∧
      ∀ vars progress,
        let turns := Attempt.exec around.answer tokens
          (run.turns run.transaction vars 0 run.pipeline.stages run.beginning)
        turns.value = .ok progress → ∀ slot, slot ≠ "" → slot ∈ run.pipeline.slots →
          ∃ writer result, run.pipeline.outputIndex? slot = some writer ∧
            run.Left around vars (stageCallsOf turns.trace) writer result ∧
            progress.store.get? slot = some result := by
  refine ⟨fun output succeeds => ?_, ?_⟩
  · rw [program_value] at succeeds
    cases fails : firstFailure (run.hurdles around tokens) with
    | some error =>
        rw [fails] at succeeds
        cases succeeds
    | none =>
        rw [fails] at succeeds
        obtain rfl := Except.ok.inj succeeds
        obtain ⟨resolves, -, -⟩ := run.of_no_failure around tokens fails
        refine ⟨run.bindings, _, resolves, run.leavesAll_of_no_failure around tokens fails,
          fun pulls => ⟨_, run.pulledPayload_of_no_failure around tokens pulls fails, ?_⟩,
          fun calls => ?_⟩
        · rw [outputFor, pulls]
        · have stored := run.through_storedIn around run.bindings tokens run.config.outputSlot
          rw [run.storedIn_of_not_pull (by rw [calls]; decide)] at stored
          rw [outputFor, calls, outputIn, finished, stored, finalOutput]
  · intro vars progress turns ended slot named written
    obtain ⟨leaves, stored⟩ := run.turns_end around vars tokens ended
    rw [stored slot]
    exact leaves.storedIn_eq setUp named written

/-- A reading run hands back what its second stage has read, with a note; the slot of that stage is
the output slot. -/
theorem relay_pulls :
    let pulling : Run := { relay with mode := .pull }
    let second : StageScript :=
      { name := "second", results := fun _ => .ofPayload (.text "receipt") }
    let around : Surroundings :=
      { transformer := some .tagging, stages := [.idle 0 "first", second.stage 1 0] }
    let turns := Attempt.exec around.answer {}
      (pulling.turns pulling.transaction .empty 0 pulling.pipeline.stages pulling.beginning)
    pulling.pipeline.IsSetUp ∧
      (pulling.program.exec around.answer {}).value = .ok (.payload (.text "note:receipt")) ∧
      (∃ results, results.length = 2 ∧ pulling.PulledPayload results (.text "note:receipt")) ∧
      ∃ progress result, turns.value = .ok progress ∧
        pulling.Left around .empty (stageCallsOf turns.trace) 1 result ∧
        progress.store.get? "b" = some result := by
  intro pulling second around turns
  have made : (Pipeline.setUp (StageRegistry.empty.register "idle" (StageRegistry.idle 0))
      relayConfig).outcome = .ok pulling.pipeline := rfl
  have setUp : pulling.pipeline.IsSetUp := .intro .placeholders made
  have succeeds : (pulling.program.exec around.answer {}).value =
      .ok (.payload (.text "note:receipt")) := rfl
  obtain ⟨progress, come⟩ : ∃ progress, turns.value = .ok progress := ⟨_, rfl⟩
  obtain ⟨handsBack, ends⟩ := pulling.last_writers_decide around {} setUp
  obtain ⟨vars, results, -, leaves, pulled, -⟩ := handsBack _ succeeds
  obtain ⟨payload, final, same⟩ := pulled rfl
  obtain rfl := RunOutput.payload.inj same
  obtain ⟨writer, result, index, left, stored⟩ :=
    ends .empty progress come "b" (by decide) (by decide)
  obtain rfl : 1 = writer := Option.some.inj index
  exact ⟨setUp, succeeds, ⟨results, leaves.length_eq, final⟩, progress, result, come, left, stored⟩

end Run

end DocPipeline
