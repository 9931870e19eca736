import DocPipeline.Proofs.Run.Events
import Mathlib.Data.List.Forall2

/-!
# Runs that take the same course

Two runs take the same course if they ask the same of stages and of connections, tell the same about
their stages, and fail alike or not at all. What they hand back may differ, as may the names they go
by.

That is so if turn by turn their accounts agree in all that shows outside. What is left in a slot
shows only by its counters and by what it feeds to later turns, so that the accounts may differ in
the payload there.

## Main definitions

* `SameCourse`: two runs that were carried out show the same outside.
* `Account.Alike`: two turns show the same outside.
* `Run.GoesLike`: two runs come to the same, part by part.

## Main results

* `Run.GoesLike.sameCourse`: such runs take the same course.
-/

namespace DocPipeline

/-! ### What shows outside -/

/-- An event that tells about a stage. -/
def Event.isStage : Event → Bool
  | .stage .. => true
  | .run .. => false

/-- What a trace tells about stages. -/
def stageEventsOf (trace : List Request) : List Event := (eventsOf trace).filter Event.isStage

/-- Why a run has failed, if it has. -/
def RunFailure.errorOf? : Except RunFailure RunOutput → Option PipelineError
  | .error failure => some failure.error
  | .ok _ => none

/-- Two runs that were carried out show the same outside. -/
structure SameCourse (first second : Program.Execution (Except RunFailure RunOutput)) : Prop where
  /-- They call the same stages in the same order, with the same payloads and variables. -/
  stageCalls : stageCallsOf second.trace = stageCallsOf first.trace
  connectionCalls : callsOf second.trace = callsOf first.trace
  stageEvents : stageEventsOf second.trace = stageEventsOf first.trace
  /-- Both succeed, or both fail with the same error. -/
  failure : RunFailure.errorOf? second.value = RunFailure.errorOf? first.value

/-! ### Turns that are alike -/

namespace Account

/-- Two turns show the same outside. -/
structure Alike (account other : Account) : Prop where
  position : other.position = account.position
  attributes : other.attributes = account.attributes
  checked : other.checked = account.checked
  transformed : other.transformed = account.transformed
  call : other.call = account.call
  report : other.report = account.report
  counters : other.result.counters = account.result.counters

namespace Alike

variable {account other : Account} (alike : account.Alike other)

include alike

theorem hurdles_eq : other.hurdles = account.hurdles := by
  simp only [hurdles, work, alike.position, alike.checked, alike.transformed, alike.call,
    alike.report]

theorem failure_eq : other.failure = account.failure := by rw [failure, alike.hurdles_eq, ← failure]

theorem completion_eq : other.completion = account.completion := by
  rw [completion, alike.attributes, alike.counters, ← completion]

/-- What is heard of them is the same. -/
theorem events_eq (run twin : Run) :
    eventsOf (twin.requestsOf other) = eventsOf (run.requestsOf account) := by
  rw [Run.eventsOf_requestsOf, Run.eventsOf_requestsOf, alike.failure_eq, alike.completion_eq,
    alike.checked, alike.attributes]

end Alike

/-- Turns that are alike, one by one. -/
abbrev AllAlike : List Account → List Account → Prop := List.Forall₂ Alike

namespace AllAlike

variable {accounts others : List Account} (alike : AllAlike accounts others)

include alike

theorem hurdles_eq : others.flatMap hurdles = accounts.flatMap hurdles := by
  induction alike with
  | nil => rfl
  | cons first _ ih => rw [List.flatMap_cons, List.flatMap_cons, first.hurdles_eq, ih]

theorem calls_eq :
    (others.map fun account => (account.position, account.call)) =
      accounts.map fun account => (account.position, account.call) := by
  induction alike with
  | nil => rfl
  | cons first _ ih => rw [List.map_cons, List.map_cons, first.position, first.call, ih]

/-- What is heard of them up to the first failure is the same. -/
theorem events_eq (run twin : Run) :
    eventsOf (twin.requestsUpToFailure others) = eventsOf (run.requestsUpToFailure accounts) := by
  induction alike with
  | nil => rfl
  | cons first _ ih =>
      rw [Run.requestsUpToFailure, Run.requestsUpToFailure, eventsOf_append, eventsOf_append,
        first.events_eq run twin, first.failure_eq]
      split
      · rw [ih]
      · rfl

end AllAlike

end Account

/-! ### Runs that come to the same -/

namespace Run

variable (run : Run) (around : Surroundings) (tokens : TokenPool)

/-- What a run tells about its stages is what its turns tell. -/
theorem program_stageEvents :
    stageEventsOf (run.program.exec around.answer tokens).trace =
      eventsOf (run.requestsUpToFailure (run.comingTurns around tokens)) := by
  have ofStages : ∀ event ∈ eventsOf (run.requestsUpToFailure (run.comingTurns around tokens)),
      event.isStage := by
    intro event mem
    rw [eventsOf_requestsUpToFailure, List.mem_append, List.mem_flatMap, List.mem_map] at mem
    obtain ⟨account, -, mem⟩ | ⟨account, -, rfl⟩ := mem
    · simp only [Account.completion, List.mem_cons, List.not_mem_nil, or_false] at mem
      rcases mem with rfl | rfl <;> rfl
    · rfl
  rw [stageEventsOf, program_events, ← eventsOf_requestsUpToFailure, List.filter_append,
    List.filter_cons, List.filter_eq_self.mpr ofStages]
  simp [Event.isStage]

/-- What is heard of a run: its start, what it tells about its stages, and its end. -/
theorem program_eventsOf :
    let execution := run.program.exec around.answer tokens
    eventsOf execution.trace =
      .run run.attributes .started :: stageEventsOf execution.trace ++
        [.run run.attributes (.ofOutcome execution.value)] := by
  intro execution
  rw [program_stageEvents, eventsOf_requestsUpToFailure]
  exact run.program_events around tokens

/-- Why a run fails. -/
theorem program_errorOf? :
    RunFailure.errorOf? (run.program.exec around.answer tokens).value =
      firstFailure (run.hurdles around tokens) := by
  rw [program_value]
  cases firstFailure (run.hurdles around tokens) <;> rfl

/-- How a run is settled depends on whether it fails, and not on what it would hand back. -/
theorem settlement_elim (faults : ConnectionFaults) (failure : Option PipelineError)
    (output other : RunOutput) :
    settlement faults (failure.elim (.ok output) .error) =
      settlement faults (failure.elim (.ok other) .error) := by
  cases failure <;> rfl

/-- Two runs come to the same, part by part. -/
structure GoesLike (run twin : Run) : Prop where
  resolved : twin.resolved = run.resolved
  connectionName : twin.config.connectionName = run.config.connectionName
  managesCommit : twin.config.managesCommit = run.config.managesCommit
  turns : Account.AllAlike (run.turnAccounts around tokens) (twin.turnAccounts around tokens)
  merge : twin.mergeFailure (twin.finished around tokens).store =
    run.mergeFailure (run.finished around tokens).store

namespace GoesLike

variable {run twin : Run} {around : Surroundings} {tokens : TokenPool}
  (alike : run.GoesLike around tokens twin)

include alike

theorem begun_eq : twin.begun around = run.begun around := by
  rw [begun, begun, alike.managesCommit]

theorem opening_eq : twin.opening around = run.opening around := by
  rw [opening, opening, alike.resolved, alike.connectionName, alike.begun_eq]

theorem ending_eq : twin.ending around tokens = run.ending around tokens := by
  rw [ending, ending, alike.merge, closed, closed, alike.managesCommit]

theorem hurdles_eq : twin.hurdles around tokens = run.hurdles around tokens := by
  rw [hurdles, hurdles, alike.opening_eq, alike.turns.hurdles_eq, alike.ending_eq]

theorem settlement_eq {vars : Variables} (resolves : run.resolved = .ok vars) :
    settlement around.faults (twin.attained around tokens vars) =
      settlement around.faults (run.attained around tokens vars) := by
  have own := run.bindings_of_resolved resolves
  have theirs := twin.bindings_of_resolved (alike.resolved.trans resolves)
  have hurdles := alike.turns.hurdles_eq
  have merge := alike.merge
  rw [attained, attained, alike.begun_eq]
  cases run.begun around with
  | error error => rfl
  | ok done =>
      simp only [drive_value]
      rw [turnAccounts, turnAccounts, own, theirs] at hurdles
      rw [finished, finished, turnAccounts, turnAccounts, own, theirs] at merge
      rw [hurdles, merge]
      exact settlement_elim around.faults _ _ _

/-- The calls on the connection are the same. -/
theorem lifecycle_eq : twin.lifecycle around tokens = run.lifecycle around tokens := by
  rw [lifecycle, lifecycle, alike.resolved]
  cases resolves : run.resolved with
  | error error => rfl
  | ok vars =>
      simp only [alike.connectionName, alike.managesCommit, alike.settlement_eq resolves]

/-- **Runs that come to the same take the same course.** -/
theorem sameCourse :
    SameCourse (run.program.exec around.answer tokens) (twin.program.exec around.answer tokens) := by
  constructor
  · rw [(twin.program_stages around tokens).1, (run.program_stages around tokens).1,
      alike.turns.calls_eq, alike.hurdles_eq]
  · rw [(twin.program_spec around tokens).2.1, (run.program_spec around tokens).2.1,
      carryOut_calls, carryOut_calls, alike.lifecycle_eq]
  · rw [program_stageEvents, program_stageEvents, comingTurns, comingTurns, alike.opening_eq]
    split
    · exact alike.turns.events_eq run twin
    · rfl
  · rw [program_errorOf?, program_errorOf?, alike.hurdles_eq]

end GoesLike

end Run

end DocPipeline
