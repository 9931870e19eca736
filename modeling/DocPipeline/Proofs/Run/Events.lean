import DocPipeline.Event.Log
import DocPipeline.Proofs.Run.FirstFailure
import DocPipeline.Proofs.Run.Payloads

/-!
# The events of a run

What those who watch hear of a run: that it has started, then turn by turn that a stage has started
and that it has completed, and at last how the run ended. Stages are heard of in order, as far as
the run comes; at most one of them is heard to start and not to complete, and then the run fails.

## Main definitions

* `eventsOf`: the events in a trace.
* `EventLog.collected`: what a sink that keeps everything holds.
* `Clears`: a run comes to a step and gets over it.
* `Run.Told`: the story that events tell of a run.

## Main results

* `Run.eventsOf_requestsUpToFailure`: the events of a list of turns.
* `Run.program_events`: the events of a run.
* `Run.events_tell_turns`: the events of every run tell its story.
-/

namespace DocPipeline

/-! ### Events in a trace -/

/-- The events that a trace shows. -/
def eventsOf (trace : List Request) : List Event := trace.filterMap Request.event?

@[simp] theorem eventsOf_nil : eventsOf [] = [] := rfl

@[simp] theorem eventsOf_cons (request : Request) (trace : List Request) :
    eventsOf (request :: trace) = request.event?.toList ++ eventsOf trace := by
  rw [eventsOf, List.filterMap_cons]
  cases request.event? <;> rfl

@[simp] theorem eventsOf_append (first second : List Request) :
    eventsOf (first ++ second) = eventsOf first ++ eventsOf second :=
  List.filterMap_append

/-- A request that those who watch do not hear of. -/
def Request.IsSilent (request : Request) : Prop := request.event? = none

theorem Request.IsNote.isSilent (request : Request) (note : request.IsNote) : request.IsSilent := by
  cases request with
  | warn notice => rfl
  | dump record => rfl
  | _ => cases note

theorem Request.Settles.isSilent (request : Request) (settles : request.Settles) :
    request.IsSilent := by
  cases request with
  | connection call => rfl
  | warn notice => rfl
  | _ => cases settles

theorem Request.TidiesUp.isSilent (request : Request) (tidies : request.TidiesUp) :
    request.IsSilent := by
  cases request with
  | cleanUp position => rfl
  | warn notice => rfl
  | _ => cases tidies

theorem eventsOf_eq_nil {trace : List Request}
    (silent : ∀ request ∈ trace, request.IsSilent) : eventsOf trace = [] :=
  List.filterMap_eq_nil_iff.mpr silent

/-- A silent program shows no event. -/
theorem Program.Asks.eventsOf_eq_nil {α : Type} {program : Program α}
    (silent : program.Asks Request.IsSilent) (answer : Answerer) (tokens : TokenPool) :
    eventsOf (program.exec answer tokens).trace = [] :=
  DocPipeline.eventsOf_eq_nil (silent.trace answer tokens)

/-- What a sink that keeps everything holds after some events, each written down at its own time. -/
def EventLog.collected (stamps : Nat → Stamp) (events : List Event) : EventLog :=
  events.zipIdx.foldl
    (fun log (event, index) => log.emit event.type (some (event.data (stamps index)))) {}

theorem EventLog.collected_entries (stamps : Nat → Stamp) (events : List Event) :
    (collected stamps events).entries =
      events.zipIdx.map fun (event, index) => (event.type, some (event.data (stamps index))) := by
  induction events using List.reverseRecOn with
  | nil => rfl
  | append_singleton events event ih =>
      rw [collected, List.zipIdx_append, List.foldl_append, ← collected, List.map_append, ← ih]
      rfl

/-- The names in the sink are those of the events. -/
theorem EventLog.collected_types (stamps : Nat → Stamp) (events : List Event) :
    (collected stamps events).types = events.map Event.type := by
  rw [types, collected_entries, List.map_map]
  conv_rhs => rw [← List.zipIdx_map_fst 0 events, List.map_map]
  rfl

/-- What an event says under a name when it is written down. -/
def Event.shows? (event : Event) (stamp : Stamp) (name : String) : Option Json :=
  match event.data stamp with
  | .obj fields => Json.field? fields name
  | _ => none

/-! ### Turns -/

namespace Account

/-- What is said about the stage of a turn. -/
def attributes (account : Account) : StageAttributes :=
  Run.stageAttributes account.position account.stage account.call.operation

/-- The events of a turn that ends well. -/
def completion (account : Account) : List Event :=
  [.stage account.attributes .started,
    .stage account.attributes (.completed account.result.counters)]

end Account

/-- The turns that end well before any fails. -/
def completedTurns (accounts : List Account) : List Account :=
  accounts.takeWhile (·.failure.isNone)

/-- The turn that fails, if it comes as far as to start its stage. -/
def brokenTurn? (accounts : List Account) : Option Account :=
  (accounts.find? (·.failure.isSome)).filter (·.checked.isOk)

namespace Run

variable (run : Run) (around : Surroundings) (vars : Variables) (tokens : TokenPool)

theorem recordRequests_silent (checkpoint : Checkpoint) (stage : Option String)
    (payload : Payload) : eventsOf (run.recordRequests checkpoint stage payload) = [] := by
  rw [recordRequests]
  split <;> rfl

theorem transformRequests_silent (stage : StageConfig) (payload : Payload) :
    eventsOf (transformRequests vars stage payload) = [] := by
  rw [transformRequests]
  split <;> rfl

/-- While a stage works, those who watch hear nothing. -/
theorem workRequests_silent (account : Account) : eventsOf (run.workRequests account) = [] := by
  rw [workRequests]
  cases account.call.operation <;> cases account.report <;> cases account.transformed <;>
    simp [recordRequests_silent, transformRequests_silent, Request.event?]

/-- The events of a turn: that its stage starts, if the token lets it, and that it completes, if
nothing fails. -/
theorem eventsOf_requestsOf (account : Account) :
    eventsOf (run.requestsOf account) =
      if account.failure.isNone then account.completion
      else if account.checked.isOk then [.stage account.attributes .started] else [] := by
  rw [requestsOf, Account.completion, Account.attributes]
  cases checked : account.checked with
  | error error =>
      have fails : account.failure.isNone = false := by
        rw [Account.failure, Account.hurdles, checked]
        rfl
      simp [fails, Request.event?, Except.isOk, Except.toBool]
  | ok done =>
      cases account.failure.isNone <;>
        simp [workRequests_silent, Request.event?, Except.isOk, Except.toBool]

/-- **The events of a list of turns**: those of the turns that end well, and the start of the one
that does not. -/
theorem eventsOf_requestsUpToFailure (accounts : List Account) :
    eventsOf (run.requestsUpToFailure accounts) =
      (completedTurns accounts).flatMap Account.completion ++
        (brokenTurn? accounts).toList.map fun account => .stage account.attributes .started := by
  induction accounts with
  | nil => rfl
  | cons account rest ih =>
      rw [requestsUpToFailure, eventsOf_append, eventsOf_requestsOf, completedTurns, brokenTurn?,
        List.takeWhile_cons, List.find?_cons]
      cases fails : account.failure with
      | none =>
          simp only [Option.isNone_none, Option.isSome_none, reduceIte, List.flatMap_cons,
            List.append_assoc]
          exact congrArg (account.completion ++ ·) ih
      | some error =>
          cases checked : account.checked <;>
            simp [Option.filter, checked, Except.isOk, Except.toBool]

/-! ### Whole runs -/

/-- The turns that a run comes to as long as none of them fails; there are none if it fails before
the first. -/
def comingTurns : List Account :=
  if firstFailure (run.opening around) = none then run.turnAccounts around tokens else []

/-- The events of the work of a run are those of its turns. -/
theorem drive_events :
    eventsOf (Attempt.exec around.answer tokens (run.drive run.transaction vars)).trace =
      eventsOf (run.requestsUpToFailure (run.accounts around vars tokens)) := by
  obtain ⟨-, trace⟩ := run.turns_exec around vars tokens 0 run.pipeline.stages run.beginning
  rcases done : Attempt.exec around.answer tokens
    (run.turns run.transaction vars 0 run.pipeline.stages run.beginning) with
    ⟨outcome, between, requests⟩
  rw [done] at trace
  obtain rfl : requests = run.requestsUpToFailure (run.accounts around vars tokens) := trace
  rw [drive]
  cases outcome with
  | error error => rw [Attempt.exec_then_error _ done]
  | ok progress =>
      have silent := ((run.conclude_asks progress).mono Request.IsNote.isSilent).eventsOf_eq_nil
        around.answer between
      rw [Attempt.exec_run] at silent
      rw [Attempt.exec_then_ok _ done, eventsOf_append, silent, List.append_nil]

/-- Beginning the transaction is not heard of. -/
theorem beginRequests_silent : eventsOf run.beginRequests = [] := by
  rw [beginRequests]
  split <;> rfl

/-- The events of the work of a run on its connection. -/
theorem perform_events :
    eventsOf ((run.perform run.handedOut vars).exec around.answer tokens).trace =
      if (run.begun around).isOk then
        eventsOf (run.requestsUpToFailure (run.accounts around vars tokens))
      else [] := by
  rw [perform_exec]
  cases run.begun around with
  | error error => exact run.beginRequests_silent
  | ok done =>
      simp only [eventsOf_append, beginRequests_silent, drive_events]
      rfl

/-- The events of a run between its first and its last. -/
theorem carryOut_events :
    eventsOf (run.carryOut.exec around.answer tokens).trace =
      eventsOf (run.requestsUpToFailure (run.comingTurns around tokens)) := by
  have recorded := ((run.record_asks .input none run.input).mono
    Request.IsNote.isSilent).eventsOf_eq_nil around.answer tokens
  have sameTokens := run.record_tokens around tokens .input none run.input
  rw [comingTurns, opening, turnAccounts, bindings]
  rw [carryOut, Program.exec_then, sameTokens, ← resolved]
  cases run.resolved with
  | error error => simp [recorded, requestsUpToFailure]
  | ok vars =>
      have performed := run.perform_events around vars tokens
      simp only [Program.exec_then, run.acquire_exec]
      cases around.faults.answer (.acquire run.config.connectionName) with
      | error error => simp [recorded, requestsUpToFailure, Except.map, Request.event?]
      | ok done =>
          have completed := fun tx outcome tokens =>
            ((complete_asks tx outcome).mono Request.Settles.isSilent).eventsOf_eq_nil around.answer
              tokens
          have resultRecorded := fun outcome tokens =>
            ((run.recordResult_asks outcome).mono Request.IsNote.isSilent).eventsOf_eq_nil
              around.answer tokens
          simp only [Except.map, Program.exec_then, Program.exec_pure, eventsOf_append,
            eventsOf_cons, recorded, performed, completed, resultRecorded]
          cases run.begun around with
          | error error =>
              simp [Except.isOk, Except.toBool, Request.event?, requestsUpToFailure]
          | ok done => simp [Except.isOk, Except.toBool, Except.toOption, Request.event?]

end Run

/-- The moment at the end of a run. -/
def RunMoment.ofOutcome : Except RunFailure RunOutput → RunMoment
  | .ok _ => .completed
  | .error ⟨_, _, .cancelled reason⟩ => .cancelled (.cancelled reason)
  | .error failure => .failed failure.error

namespace Run

variable (run : Run) (around : Surroundings) (tokens : TokenPool)

/-- Closing a run tells how it ended. -/
theorem close_events (result : Except PipelineError RunOutput) :
    eventsOf ((run.close result).exec around.answer tokens).trace =
      [.run run.attributes (.ofOutcome ((run.close result).exec around.answer tokens).value)] := by
  cases result with
  | ok output => rfl
  | error error => cases error <;> rfl

/-- **The events of a run**: its start, those of its turns, and its end. -/
theorem program_events :
    let execution := run.program.exec around.answer tokens
    let turns := run.comingTurns around tokens
    eventsOf execution.trace =
      .run run.attributes .started ::
        ((completedTurns turns).flatMap Account.completion ++
          (brokenTurn? turns).toList.map fun account => .stage account.attributes .started) ++
        [.run run.attributes (.ofOutcome execution.value)] := by
  have told : (run.tell .started).exec around.answer tokens =
      ⟨(), tokens, [.emit (.run run.attributes .started)]⟩ := rfl
  have cleaned := ((cleanUp_asks 0 run.pipeline.stages).mono
    Request.TidiesUp.isSilent).eventsOf_eq_nil around.answer
  rw [program, Program.exec_then, told, Program.exec_then, Program.exec_then]
  simp only [eventsOf_append, eventsOf_cons, carryOut_events, eventsOf_requestsUpToFailure, cleaned,
    close_events]
  rfl

end Run

/-! ### How far a run comes -/

/-- A run comes to a step and gets over it. -/
def Clears (hurdles : List Hurdle) (step : RunStep) : Prop := ⟨step, none⟩ ∈ reached hurdles

/-- The step that fails first. -/
def failingStep? (hurdles : List Hurdle) : Option RunStep :=
  (hurdles.find? (·.failure.isSome)).map (·.step)

@[simp] theorem not_clears_nil (step : RunStep) : ¬ Clears [] step := List.not_mem_nil

theorem clears_append {first second : List Hurdle} {step : RunStep} :
    Clears (first ++ second) step ↔
      Clears first step ∨ firstFailure first = none ∧ Clears second step := by
  rw [Clears, reached_append, List.mem_append]
  cases firstFailure first with
  | none => simp [Clears]
  | some error => simp [Clears]

/-- Only steps that are there are cleared. -/
theorem Clears.exists_mem {hurdles : List Hurdle} {step : RunStep} (clears : Clears hurdles step) :
    ∃ hurdle ∈ hurdles, hurdle.step = step := by
  induction hurdles with
  | nil => cases clears
  | cons hurdle rest ih =>
      rcases List.mem_cons.mp clears with same | later
      · exact ⟨hurdle, List.mem_cons_self, by rw [← same]⟩
      · split at later
        · obtain ⟨other, mem, same⟩ := ih later
          exact ⟨other, List.mem_cons_of_mem _ mem, same⟩
        · cases later

/-- The step that fails first is found before all that comes behind it. -/
theorem failingStep?_append {first : List Hurdle} (second : List Hurdle)
    (fails : firstFailure first ≠ none) :
    ∃ hurdle ∈ first, failingStep? (first ++ second) = some hurdle.step := by
  induction first with
  | nil => exact absurd rfl fails
  | cons hurdle rest ih =>
      rw [List.cons_append, failingStep?, List.find?_cons]
      cases own : hurdle.failure with
      | some error => exact ⟨hurdle, List.mem_cons_self, rfl⟩
      | none =>
          rw [firstFailure_cons, own, Option.none_or] at fails
          obtain ⟨other, mem, same⟩ := ih fails
          exact ⟨other, List.mem_cons_of_mem _ mem, same⟩

/-- A step fails first if any does. -/
theorem failingStep?_eq_none_iff {hurdles : List Hurdle} :
    failingStep? hurdles = none ↔ firstFailure hurdles = none := by
  simp [failingStep?, firstFailure]

namespace Account

/-- The steps of a turn are those of its position. -/
theorem step_of_mem_hurdles {account : Account} {hurdle : Hurdle}
    (mem : hurdle ∈ account.hurdles) :
    hurdle.step = .check account.position ∨ hurdle.step = .operate account.position ∨
      hurdle.step = .transform account.position := by
  rw [hurdles, work] at mem
  cases operation : account.call.operation <;> simp only [operation, List.mem_cons,
    List.not_mem_nil, or_false] at mem <;> rcases mem with rfl | rfl | rfl <;> simp

theorem step_of_clears {account : Account} {step : RunStep}
    (clears : Clears account.hurdles step) :
    step = .check account.position ∨ step = .operate account.position ∨
      step = .transform account.position := by
  obtain ⟨hurdle, mem, rfl⟩ := clears.exists_mem
  exact step_of_mem_hurdles mem

theorem clears_check_iff (account : Account) (position : Nat) :
    Clears account.hurdles (.check position) ↔
      position = account.position ∧ account.checked = .ok () := by
  rw [Clears, hurdles, work]
  cases account.checked with
  | error error => simp [reached]
  | ok done =>
      cases account.call.operation <;> cases account.transformed <;> cases account.report <;>
        simp [reached]

/-- A turn ends well if its stage and its transformation let it. -/
theorem clears_work_iff (account : Account) (position : Nat) :
    (Clears account.hurdles (.operate position) ∧ Clears account.hurdles (.transform position)) ↔
      position = account.position ∧ account.failure = none := by
  constructor
  · rintro ⟨operates, transforms⟩
    obtain rfl : position = account.position := by simpa using step_of_clears operates
    refine ⟨rfl, ?_⟩
    rw [account.failure_eq_none_iff]
    rw [Clears, hurdles, work] at operates transforms
    cases checked : account.checked with
    | error error => simp [reached, checked] at operates
    | ok done =>
        cases operation : account.call.operation <;> cases transformed : account.transformed <;>
          cases reported : account.report <;>
          simp [reached, checked, operation, transformed, reported] at operates transforms ⊢
  · rintro ⟨rfl, succeeds⟩
    obtain ⟨checked, ⟨payload, transformed⟩, report, reported⟩ :=
      account.failure_eq_none_iff.mp succeeds
    rw [Clears, Clears, hurdles, work]
    cases operation : account.call.operation <;>
      simp [reached, checked, transformed, reported]

end Account

/-- A step of some turn is cleared if all turns before it end well. -/
theorem clears_flatMap_iff {accounts : List Account} {step : RunStep} :
    Clears (accounts.flatMap Account.hurdles) step ↔
      ∃ index account, accounts[index]? = some account ∧ Clears account.hurdles step ∧
        ∀ earlier ∈ accounts.take index, earlier.failure = none := by
  induction accounts with
  | nil => simp
  | cons account rest ih =>
      rw [List.flatMap_cons, clears_append, ih, ← Account.failure]
      constructor
      · rintro (clears | ⟨succeeds, index, other, found, clears, earlier⟩)
        · exact ⟨0, account, rfl, clears, by simp⟩
        · refine ⟨index + 1, other, found, clears, ?_⟩
          rw [List.take_succ_cons]
          exact List.forall_mem_cons.mpr ⟨succeeds, earlier⟩
      · rintro ⟨_ | index, other, found, clears, earlier⟩
        · obtain rfl := Option.some.inj found
          exact .inl clears
        · rw [List.take_succ_cons] at earlier
          obtain ⟨succeeds, earlier⟩ := List.forall_mem_cons.mp earlier
          exact .inr ⟨succeeds, index, other, found, clears, earlier⟩

/-- The turns that end well, by their positions. -/
theorem lt_completedTurns_iff {accounts : List Account} {index : Nat} :
    index < (completedTurns accounts).length ↔
      ∃ account, accounts[index]? = some account ∧ account.failure = none ∧
        ∀ earlier ∈ accounts.take index, earlier.failure = none := by
  induction accounts generalizing index with
  | nil => simp [completedTurns]
  | cons account rest ih =>
      rw [completedTurns, List.takeWhile_cons]
      cases fails : account.failure with
      | some error => cases index <;> simp [fails]
      | none =>
          cases index with
          | zero => simp [fails]
          | succ index =>
              rw [completedTurns] at ih
              simpa [fails] using ih

/-- The turns that begin, by their positions. -/
theorem lt_begunTurns_iff {accounts : List Account} {index : Nat} :
    index < (completedTurns accounts).length + (brokenTurn? accounts).toList.length ↔
      ∃ account, accounts[index]? = some account ∧ account.checked = .ok () ∧
        ∀ earlier ∈ accounts.take index, earlier.failure = none := by
  induction accounts generalizing index with
  | nil => simp [completedTurns, brokenTurn?]
  | cons account rest ih =>
      rw [completedTurns, List.takeWhile_cons, brokenTurn?, List.find?_cons]
      cases fails : account.failure with
      | some error =>
          cases checked : account.checked <;> cases index <;>
            simp [fails, checked, Option.filter, Except.isOk, Except.toBool]
      | none =>
          cases index with
          | zero => simp [(account.failure_eq_none_iff.mp fails).1, Nat.add_right_comm _ 1]
          | succ index =>
              have moved := @ih index
              rw [completedTurns, brokenTurn?] at moved
              simpa [fails, Nat.add_right_comm _ 1] using moved

/-- The turns that end well come first, in their order. -/
theorem getElem?_of_completedTurns {accounts : List Account} {index : Nat} {account : Account}
    (found : (completedTurns accounts)[index]? = some account) :
    accounts[index]? = some account ∧ account.failure = none := by
  obtain ⟨more, front⟩ : completedTurns accounts <+: accounts := List.takeWhile_prefix _
  constructor
  · rw [← front, List.getElem?_append_left (List.getElem?_eq_some_iff.mp found).1, found]
  · have all := List.all_takeWhile (p := fun turn : Account => turn.failure.isNone) (l := accounts)
    simpa using List.all_eq_true.mp all account (List.mem_of_getElem? found)

/-- A turn that begins and does not end well comes right behind those that do. -/
theorem getElem?_of_brokenTurn? {accounts : List Account} {account : Account}
    (broken : brokenTurn? accounts = some account) :
    accounts[(completedTurns accounts).length]? = some account := by
  induction accounts with
  | nil => cases broken
  | cons first rest ih =>
      rw [brokenTurn?, List.find?_cons] at broken
      rw [completedTurns, List.takeWhile_cons]
      cases fails : first.failure with
      | some error =>
          rw [fails] at broken
          exact (Option.filter_eq_some_iff.mp broken).1
      | none =>
          rw [fails] at broken
          exact ih broken

/-- Every turn that ends well has called its stage. -/
theorem length_completedTurns_le (accounts : List Account) :
    (completedTurns accounts).length ≤ operations (accounts.flatMap Account.hurdles) := by
  induction accounts with
  | nil => exact Nat.le_refl 0
  | cons account rest ih =>
      rw [completedTurns, List.takeWhile_cons, List.flatMap_cons, operations_append,
        ← Account.failure]
      cases fails : account.failure with
      | some error => simp
      | none =>
          have one := account.operations_hurdles.2 fails
          rw [completedTurns] at ih
          simp only [Option.isNone_none, reduceIte, List.length_cons, one]
          omega

/-- All turns end well if no step of theirs fails. -/
theorem completedTurns_eq_self {accounts : List Account}
    (succeed : firstFailure (accounts.flatMap Account.hurdles) = none) :
    completedTurns accounts = accounts := by
  induction accounts with
  | nil => rfl
  | cons account rest ih =>
      rw [List.flatMap_cons, firstFailure_append, Option.or_eq_none_iff, ← Account.failure]
        at succeed
      have later := ih succeed.2
      rw [completedTurns] at later
      rw [completedTurns, List.takeWhile_cons, succeed.1, Option.isNone_none, if_pos rfl, later]

/-- Whether a step belongs to a turn. -/
def RunStep.inTurn : RunStep → Bool
  | .check _ | .transform _ | .operate _ => true
  | .resolve | .acquire | .begin | .merge | .commit => false

namespace Run

variable (run : Run) (around : Surroundings) (tokens : TokenPool)

theorem opening_notInTurn : ∀ hurdle ∈ run.opening around, hurdle.step.inTurn = false := by
  simp [opening, RunStep.inTurn]

theorem ending_notInTurn : ∀ hurdle ∈ run.ending around tokens, hurdle.step.inTurn = false := by
  simp [ending, RunStep.inTurn]

/-- Steps of turns are cleared in the turns that a run comes to. -/
theorem clears_hurdles_iff (step : RunStep) (inTurn : step.inTurn = true) :
    Clears (run.hurdles around tokens) step ↔
      Clears ((run.comingTurns around tokens).flatMap Account.hurdles) step := by
  have notInOpening : ¬ Clears (run.opening around) step := by
    intro clears
    obtain ⟨hurdle, mem, rfl⟩ := clears.exists_mem
    rw [run.opening_notInTurn around hurdle mem] at inTurn
    cases inTurn
  have notInEnding : ¬ Clears (run.ending around tokens) step := by
    intro clears
    obtain ⟨hurdle, mem, rfl⟩ := clears.exists_mem
    rw [run.ending_notInTurn around tokens hurdle mem] at inTurn
    cases inTurn
  rw [hurdles, clears_append, clears_append, comingTurns]
  split
  · next opens => simp [notInOpening, notInEnding, opens]
  · next fails => simp [notInOpening, notInEnding, fails]

/-- The turns that a run comes to are those of its positions, in order. -/
theorem comingTurns_getElem? {index : Nat} {account : Account}
    (found : (run.comingTurns around tokens)[index]? = some account) :
    firstFailure (run.opening around) = none ∧
      (run.turnAccounts around tokens)[index]? = some account ∧ account.position = index := by
  rw [comingTurns] at found
  split at found
  · next opens =>
      obtain ⟨bound, between, -, same⟩ := run.turnAccounts_getElem? around tokens found
      refine ⟨opens, found, ?_⟩
      rw [same, account_position]
  · cases found

/-- What is said about the stages of a run, in order. -/
def turnAttributes : List StageAttributes :=
  run.pipeline.stages.mapIdx fun position bound =>
    stageAttributes position bound.config (run.mode.operation bound.config.mode)

theorem accountsFrom_attributes (vars : Variables) (position : Nat) (stages : List BoundStage)
    (store : SlotStore) :
    (run.accountsFrom around vars position stages store tokens).map Account.attributes =
      stages.mapIdx fun index bound =>
        stageAttributes (position + index) bound.config
          (run.mode.operation bound.config.mode) := by
  induction stages generalizing position store tokens with
  | nil => rfl
  | cons bound rest ih =>
      simp only [accountsFrom, List.map_cons, List.mapIdx_cons, Account.attributes,
        account_position, account_stage, account_operation, Nat.add_zero]
      simp only [ih, Nat.add_assoc, Nat.add_comm 1]

theorem turnAccounts_attributes :
    (run.turnAccounts around tokens).map Account.attributes = run.turnAttributes := by
  simp [turnAccounts, accounts, accountsFrom_attributes, turnAttributes]

/-- A turn that ends well counts what its stage reports. -/
theorem reported_of_succeeded {index : Nat} {account : Account}
    (found : (run.turnAccounts around tokens)[index]? = some account)
    (succeeds : account.failure = none) :
    ∃ report, (around.operate index account.call).outcome = .ok report ∧
      account.result.counters = report.counters := by
  obtain ⟨bound, between, -, same⟩ := run.turnAccounts_getElem? around tokens found
  obtain ⟨report, payload, reports, -, result⟩ :=
    run.account_result around run.bindings between _ index bound.config (same ▸ succeeds)
  rw [← same] at reports result
  refine ⟨report, reports, ?_⟩
  rw [result]
  rfl

/-! ### The story of a run -/

/-- The name of the last event of a run. -/
def endingType : Except RunFailure RunOutput → String
  | .ok _ => "pipeline.completed"
  | .error ⟨_, _, .cancelled _⟩ => "pipeline.cancelled"
  | .error _ => "pipeline.failed"

theorem ofOutcome_type (attributes : RunAttributes) (result : Except RunFailure RunOutput) :
    (Event.run attributes (.ofOutcome result)).type = endingType result := by
  cases result with
  | ok output => rfl
  | error failure =>
      obtain ⟨name, id, error⟩ := failure
      cases error <;> rfl

/-- What the events of a run tell, where `reports` are the reports of the stages whose turns end
well, in order, and `broken` is the number of turns that begin and do not end well. -/
structure Told (reports : List StageResult) (broken : Nat) : Prop where
  /-- A run starts, then stages start and complete, then one stage may start only, and last comes
  how the run ended. -/
  events : eventsOf (run.program.exec around.answer tokens).trace =
    .run run.attributes .started ::
      ((run.turnAttributes.zip reports).flatMap
          (fun (about, report) =>
            [.stage about .started, .stage about (.completed report.counters)]) ++
        ((run.turnAttributes.drop reports.length).take broken).map (.stage · .started)) ++
      [.run run.attributes (.ofOutcome (run.program.exec around.answer tokens).value)]
  /-- The same by name, in a sink that keeps everything. -/
  types : ∀ stamps,
    (EventLog.collected stamps (eventsOf (run.program.exec around.answer tokens).trace)).types =
      "pipeline.started" ::
        (reports.flatMap (fun _ => ["stage.started", "stage.completed"]) ++
          List.replicate broken "stage.started") ++
        [endingType (run.program.exec around.answer tokens).value]
  /-- One turn at most begins and does not end well. -/
  brokenOnce : broken ≤ 1
  /-- A stage starts if the look at the token is come to and lets it. -/
  started_iff : ∀ position, position < reports.length + broken ↔
    Clears (run.hurdles around tokens) (.check position)
  /-- It completes if besides its work and its transformation succeed. -/
  completed_iff : ∀ position, position < reports.length ↔
    Clears (run.hurdles around tokens) (.check position) ∧
      Clears (run.hurdles around tokens) (.operate position) ∧
      Clears (run.hurdles around tokens) (.transform position)
  /-- The reports are what the stages answer when they are called. -/
  reported : ∀ position report, reports[position]? = some report →
    ∃ call, (position, call) ∈ stageCallsOf (run.program.exec around.answer tokens).trace ∧
      (around.operate position call).outcome = .ok report
  /-- All stages complete if nothing fails, or nothing but the merge or the commit. -/
  all : (∀ step, failingStep? (run.hurdles around tokens) = some step →
      step = .merge ∨ step = .commit) →
    reports.length = run.pipeline.stages.length ∧ broken = 0
  /-- Nothing fails if the run succeeds. -/
  succeeds : (∃ output, (run.program.exec around.answer tokens).value = .ok output) →
    failingStep? (run.hurdles around tokens) = none

/-- The turns of a run that end well, as they are told. -/
theorem zip_reports {turns : List Account} {attributes : List StageAttributes}
    {report : Account → StageResult}
    (front : ∃ more, attributes = turns.map Account.attributes ++ more) :
    attributes.zip (turns.map report) =
      turns.map fun account => (account.attributes, report account) := by
  obtain ⟨more, rfl⟩ := front
  induction turns with
  | nil => exact List.zip_nil_right
  | cons account rest ih => simp [ih]

/-- Where a run comes to its turns, what is said about their stages is said in order. -/
theorem turnAttributes_eq (opens : firstFailure (run.opening around) = none) :
    run.turnAttributes = (run.comingTurns around tokens).map Account.attributes := by
  rw [comingTurns, if_pos opens, turnAccounts_attributes]

/-- A run that fails before its first turn comes to none. -/
theorem comingTurns_of_failed (fails : ¬ firstFailure (run.opening around) = none) :
    run.comingTurns around tokens = [] :=
  if_neg fails

/-- What is told of the turns of a run, by the attributes of its stages. -/
theorem turns_told (report : Account → StageResult)
    (counted : ∀ account ∈ completedTurns (run.comingTurns around tokens),
      account.result.counters = (report account).counters) :
    let turns := run.comingTurns around tokens
    let reports := (completedTurns turns).map report
    (completedTurns turns).flatMap Account.completion =
        (run.turnAttributes.zip reports).flatMap
          (fun (about, report) =>
            [.stage about .started, .stage about (.completed report.counters)]) ∧
      (brokenTurn? turns).toList.map (fun account => Event.stage account.attributes .started) =
        ((run.turnAttributes.drop reports.length).take (brokenTurn? turns).toList.length).map
          (.stage · .started) := by
  intro turns reports
  by_cases opens : firstFailure (run.opening around) = none
  · have said := run.turnAttributes_eq around tokens opens
    obtain ⟨more, front⟩ : completedTurns turns <+: turns := List.takeWhile_prefix _
    constructor
    · rw [zip_reports ⟨more.map Account.attributes, by rw [said, ← List.map_append, front]⟩,
        List.flatMap_map]
      refine List.flatMap_congr fun account mem => ?_
      simp only [Account.completion, counted account mem]
    · cases broken : brokenTurn? turns with
      | none => rfl
      | some account =>
          have found := getElem?_of_brokenTurn? broken
          have next : (run.turnAttributes.drop reports.length).take 1 = [account.attributes] := by
            rw [List.take_one, List.head?_drop, said, List.length_map, List.getElem?_map, found]
            rfl
          simp [next]
  · simp [turns, reports, run.comingTurns_of_failed around tokens opens, completedTurns,
      brokenTurn?]

/-- A stage is heard to start if the look at the token is come to and lets it. -/
theorem lt_begunTurns_iff_clears (position : Nat) :
    position < (completedTurns (run.comingTurns around tokens)).length +
        (brokenTurn? (run.comingTurns around tokens)).toList.length ↔
      Clears (run.hurdles around tokens) (.check position) := by
  rw [run.clears_hurdles_iff around tokens _ rfl, lt_begunTurns_iff, clears_flatMap_iff]
  constructor
  · rintro ⟨account, found, checked, earlier⟩
    obtain ⟨-, -, same⟩ := run.comingTurns_getElem? around tokens found
    exact ⟨position, account, found, (account.clears_check_iff position).mpr ⟨same.symm, checked⟩,
      earlier⟩
  · rintro ⟨index, account, found, clears, earlier⟩
    obtain ⟨-, -, same⟩ := run.comingTurns_getElem? around tokens found
    obtain ⟨rfl, checked⟩ := (account.clears_check_iff position).mp clears
    subst same
    exact ⟨account, found, checked, earlier⟩

/-- A stage is heard to complete if besides its work and its transformation succeed. -/
theorem lt_completedTurns_iff_clears (position : Nat) :
    position < (completedTurns (run.comingTurns around tokens)).length ↔
      Clears (run.hurdles around tokens) (.check position) ∧
        Clears (run.hurdles around tokens) (.operate position) ∧
        Clears (run.hurdles around tokens) (.transform position) := by
  simp only [run.clears_hurdles_iff around tokens (.check position) rfl,
    run.clears_hurdles_iff around tokens (.operate position) rfl,
    run.clears_hurdles_iff around tokens (.transform position) rfl,
    lt_completedTurns_iff, clears_flatMap_iff]
  constructor
  · rintro ⟨account, found, succeeds, earlier⟩
    obtain ⟨-, -, same⟩ := run.comingTurns_getElem? around tokens found
    obtain ⟨operates, transforms⟩ :=
      (account.clears_work_iff position).mpr ⟨same.symm, succeeds⟩
    have checks := (account.clears_check_iff position).mpr
      ⟨same.symm, (account.failure_eq_none_iff.mp succeeds).1⟩
    exact ⟨⟨position, account, found, checks, earlier⟩,
      ⟨position, account, found, operates, earlier⟩,
      ⟨position, account, found, transforms, earlier⟩⟩
  · rintro ⟨-, ⟨index, account, found, operates, earlier⟩, ⟨other, again, present, transforms, -⟩⟩
    obtain ⟨-, -, same⟩ := run.comingTurns_getElem? around tokens found
    obtain ⟨-, -, sameAgain⟩ := run.comingTurns_getElem? around tokens present
    -- both steps are those of one position, so they are steps of one turn
    obtain rfl : position = account.position := by simpa using Account.step_of_clears operates
    have samePosition : account.position = again.position := by
      simpa using Account.step_of_clears transforms
    obtain rfl : account = again := by
      rw [← sameAgain, ← samePosition, same, found] at present
      exact Option.some.inj present
    subst same
    exact ⟨account, found, (account.clears_work_iff _).mp ⟨operates, transforms⟩ |>.2, earlier⟩

/-- If nothing fails, or nothing but the merge or the commit, all turns end well. -/
theorem completedTurns_of_failingStep?
    (spared : ∀ step, failingStep? (run.hurdles around tokens) = some step →
      step = .merge ∨ step = .commit) :
    (completedTurns (run.comingTurns around tokens)).length = run.pipeline.stages.length ∧
      brokenTurn? (run.comingTurns around tokens) = none := by
  have front : firstFailure
      (run.opening around ++ (run.turnAccounts around tokens).flatMap Account.hurdles) = none := by
    by_contra fails
    obtain ⟨hurdle, mem, first⟩ := failingStep?_append (run.ending around tokens) fails
    have late := spared hurdle.step first
    rcases List.mem_append.mp mem with opens | turns
    · simp only [opening, List.mem_cons, List.not_mem_nil, or_false] at opens
      rcases opens with rfl | rfl | rfl <;> simp at late
    · obtain ⟨account, -, mem⟩ := List.mem_flatMap.mp turns
      rcases Account.step_of_mem_hurdles mem with same | same | same <;> simp [same] at late
  rw [firstFailure_append, Option.or_eq_none_iff] at front
  rw [comingTurns, if_pos front.1, completedTurns_eq_self front.2, length_turnAccounts]
  refine ⟨rfl, Option.eq_none_iff_forall_ne_some.mpr fun account broken => ?_⟩
  have behind := getElem?_of_brokenTurn? broken
  rw [completedTurns_eq_self front.2, List.getElem?_length] at behind
  cases behind

/-- The stage of a turn that ends well was called, and what it answered is what is counted. -/
theorem answered_of_mem_completedTurns {position : Nat} {account : Account}
    (found : (completedTurns (run.comingTurns around tokens))[position]? = some account) :
    account.position = position ∧
      (position, account.call) ∈ stageCallsOf (run.program.exec around.answer tokens).trace ∧
      ∃ report, (around.operate position account.call).outcome = .ok report ∧
        account.result.counters = report.counters := by
  obtain ⟨coming, succeeds⟩ := getElem?_of_completedTurns found
  obtain ⟨opens, present, same⟩ := run.comingTurns_getElem? around tokens coming
  have within : position < operations (run.hurdles around tokens) := by
    have bound := (List.getElem?_eq_some_iff.mp found).1
    have called := length_completedTurns_le (run.comingTurns around tokens)
    rw [operations_hurdles, if_pos opens]
    rw [comingTurns, if_pos opens] at bound called
    omega
  exact ⟨same, (run.mem_stageCallsOf_iff around tokens).mpr ⟨within, account, present, rfl⟩,
    run.reported_of_succeeded around tokens present succeeds⟩

/-- **Events tell the story of a run**, whatever happens in it. -/
theorem exists_told : ∃ reports broken, run.Told around tokens reports broken := by
  let turns := run.comingTurns around tokens
  let report (account : Account) : StageResult :=
    (around.operate account.position account.call).outcome.toOption.getD .nothing
  have counted : ∀ account ∈ completedTurns turns,
      account.result.counters = (report account).counters := by
    intro account mem
    obtain ⟨position, found⟩ := List.mem_iff_getElem?.mp mem
    obtain ⟨rfl, -, answer, answers, counts⟩ :=
      run.answered_of_mem_completedTurns around tokens found
    simp [report, answers, counts, Except.toOption]
  have told := run.program_events around tokens
  obtain ⟨completions, start⟩ := run.turns_told around tokens report counted
  refine ⟨(completedTurns turns).map report, (brokenTurn? turns).toList.length, ?_⟩
  constructor
  case events => rw [told, completions, start]
  case types =>
    intro stamps
    rw [EventLog.collected_types, told, List.map_append, List.map_cons, List.map_append,
      List.map_flatMap, List.map_map, List.map_singleton, ofOutcome_type, List.flatMap_map]
    congr 3
    exact List.eq_replicate_iff.mpr ⟨by simp [turns], by simp [Event.type]⟩
  case brokenOnce => cases brokenTurn? turns <;> simp
  case started_iff =>
    intro position
    rw [List.length_map]
    exact run.lt_begunTurns_iff_clears around tokens position
  case completed_iff =>
    intro position
    rw [List.length_map]
    exact run.lt_completedTurns_iff_clears around tokens position
  case reported =>
    intro position answer found
    rw [List.getElem?_map, Option.map_eq_some_iff] at found
    obtain ⟨account, found, rfl⟩ := found
    obtain ⟨rfl, called, answer, answers, -⟩ :=
      run.answered_of_mem_completedTurns around tokens found
    exact ⟨account.call, called, by simp [report, answers, Except.toOption]⟩
  case all =>
    intro spared
    obtain ⟨all, none⟩ := run.completedTurns_of_failingStep? around tokens spared
    exact ⟨by rw [List.length_map, all], by simp [turns, none]⟩
  case succeeds =>
    rintro ⟨output, returned⟩
    rw [program_value] at returned
    cases fails : firstFailure (run.hurdles around tokens) with
    | some error =>
      rw [fails] at returned
      cases returned
    | none => exact failingStep?_eq_none_iff.mpr fails

/-! ### What events say -/

/-- What the event says with which a stage completes. -/
def completionFields (position : Nat) (stage : StageConfig) (operation : Operation)
    (counters : Counters) : List (String × Json) :=
  let slot (name : String) : Json := if name = "" then .null else .str name
  [("stage", .str stage.name), ("index", .int position), ("operation", .str operation.token),
    ("input_slot", slot stage.inputSlot), ("output_slot", slot stage.outputSlot),
    ("counters", counters.toJson)]

/-- What the events at the beginning and at the end of a run say alike. -/
def runFields : List (String × Json) :=
  [("run_id", .str run.id), ("pipeline", .str run.config.name), ("mode", run.mode.toJson),
    ("connection", .str run.config.connectionName),
    ("manages_commit", .bool run.config.managesCommit),
    ("stage_count", .int run.pipeline.stages.length)]

theorem named_toJson (slot : String) :
    Json.nullable .str (StageAttributes.named slot) = if slot = "" then .null else .str slot := by
  rw [StageAttributes.named]
  split <;> rfl

theorem completion_shows (position : Nat) (stage : StageConfig) (operation : Operation)
    (counters : Counters) (stamp : Stamp) :
    ∀ entry ∈ completionFields position stage operation counters,
      (Event.stage (stageAttributes position stage operation) (.completed counters)).shows? stamp
        entry.1 = some entry.2 := by
  simp only [completionFields, List.forall_mem_cons, ← named_toJson]
  exact ⟨rfl, rfl, rfl, rfl, rfl, rfl, nofun⟩

theorem moment_shows (moment : RunMoment) (stamp : Stamp) :
    ∀ entry ∈ run.runFields,
      (Event.run run.attributes moment).shows? stamp entry.1 = some entry.2 := by
  simp only [runFields, List.forall_mem_cons]
  cases moment <;> exact ⟨rfl, rfl, rfl, rfl, rfl, rfl, nofun⟩

/-- Only the last event of a run that fails says why. -/
theorem ofOutcome_shows_error (result : Except RunFailure RunOutput) (stamp : Stamp) :
    (Event.run run.attributes (.ofOutcome result)).shows? stamp "error" =
      match result with
      | .ok _ => none
      | .error failure => some (.str failure.error.message) := by
  have unsaid (a : RunAttributes) (elapsed : Binary64) (reason : Option String) :
      NameMap.lookup "error" (("timestamp", .str stamp.timestamp) ::
          ("started_at", .str stamp.startedAt) ::
          { a with duration := some elapsed, error := reason : RunAttributes }.data) =
        reason.map .str := by
    cases reason <;> rfl
  cases result with
  | ok output => exact unsaid run.attributes stamp.elapsed none
  | error failure =>
      obtain ⟨name, id, error⟩ := failure
      cases error <;> exact unsaid run.attributes stamp.elapsed _

/-- **The events of a run** tell that it starts; then, stage by stage, that it starts and completes,
with what it counted; then perhaps that one more starts; and at last how the run ended, and why if
it failed. Which stages start and complete is what the steps of the run say. -/
theorem events_tell_turns (run : Run) (around : Surroundings) (tokens : TokenPool) :
    (∃ reports broken, run.Told around tokens reports broken) ∧
      (∀ position about, run.turnAttributes[position]? = some about →
        ∃ bound, run.pipeline.stages[position]? = some bound ∧
          ∀ counters stamp, ∀ entry ∈ completionFields position bound.config
              (run.mode.operation bound.config.mode) counters,
            (Event.stage about (.completed counters)).shows? stamp entry.1 = some entry.2) ∧
      (∀ moment stamp, ∀ entry ∈ run.runFields,
        (Event.run run.attributes moment).shows? stamp entry.1 = some entry.2) ∧
      let result := (run.program.exec around.answer tokens).value
      ∀ stamp, (Event.run run.attributes (.ofOutcome result)).shows? stamp "error" =
        match result with
        | .ok _ => none
        | .error failure => some (.str failure.error.message) := by
  refine ⟨run.exists_told around tokens, fun position about found => ?_, run.moment_shows,
    run.ofOutcome_shows_error _⟩
  rw [turnAttributes, List.getElem?_mapIdx, Option.map_eq_some_iff] at found
  obtain ⟨bound, present, rfl⟩ := found
  exact ⟨bound, present, completion_shows position bound.config _⟩

/-- Without a transformer, the second of two stages starts and does not complete. -/
theorem relay_tells :
    let around : Surroundings := { stages := relay.pipeline.stages.map (·.stage) }
    (∀ stamps,
      (EventLog.collected stamps
        (eventsOf (relay.program.exec around.answer {}).trace)).types =
          ["pipeline.started", "stage.started", "stage.completed", "stage.started",
            "pipeline.failed"]) ∧
      ∀ stamp, (Event.run relay.attributes
          (.ofOutcome (relay.program.exec around.answer {}).value)).shows? stamp "error" =
        some (.str (PipelineError.message (.transform ⟨"note",
          "stage 'second' needs a transformer but none is configured"⟩))) := by
  intro around
  obtain ⟨⟨reports, broken, told⟩, -, -, why⟩ := relay.events_tell_turns around {}
  let reason : PipelineError := .transform ⟨"note",
    "stage 'second' needs a transformer but none is configured"⟩
  have steps : reached (relay.hurdles around {}) =
      [⟨.resolve, none⟩, ⟨.acquire, none⟩, ⟨.begin, none⟩, ⟨.check 0, none⟩, ⟨.transform 0, none⟩,
        ⟨.operate 0, none⟩, ⟨.check 1, none⟩, ⟨.transform 1, some reason⟩] := rfl
  have failed : (relay.program.exec around.answer {}).value = .error ⟨"relay", "1", reason⟩ :=
    relay.program_value around {}
  have one : reports.length = 1 := by
    have first := told.completed_iff 0
    have second := told.completed_iff 1
    simp only [Clears, steps, reason] at first second
    simp at first second
    omega
  have next : broken = 1 := by
    have second := told.started_iff 1
    simp only [Clears, steps, reason] at second
    have once := told.brokenOnce
    simp at second
    omega
  obtain ⟨report, rfl⟩ := List.length_eq_one_iff.mp one
  refine ⟨fun stamps => ?_, fun stamp => ?_⟩
  · rw [told.types stamps, next, failed]
    rfl
  · have shown := why stamp
    rw [failed] at shown ⊢
    exact shown

end Run

end DocPipeline
