import DocPipeline.Proofs.Run.Events

/-!
# The moves of a run

What a run does in its turns, in order: it looks at its token, tells that a stage starts, lets the
stage work and transforms payloads. Everything else that it asks for, be it a connection, a record
or somebody's attention, is left out here.

A turn looks at the token first. If it goes on, it calls its stage once at most, and behind the call
comes nothing but the transformation of what the stage has read.

## Main definitions

* `movesOf`: the moves in a trace.
* `HasTurns`: a trace that holds the requests of turns.
* `Run.movesIn`: the moves of a turn.

## Main results

* `Run.program_moves`: the moves of a run are those of its turns.
* `Run.movesIn_cases`: a turn comes to its call, or it does not.
* `Run.length_calls_before_inspect`: no look at the token comes behind the last stage.
-/

namespace DocPipeline

/-! ### Moves in a trace -/

/-- Whether a request is a move: a look at a token, the start of a stage, the work of a stage or a
transformation. -/
def Request.isMove : Request → Bool
  | .inspect _ | .transform .. | .operate .. | .emit (.stage _ .started) => true
  | _ => false

/-- The moves in a trace. -/
def movesOf (trace : List Request) : List Request := trace.filter Request.isMove

@[simp] theorem movesOf_nil : movesOf [] = [] := rfl

@[simp] theorem movesOf_cons (request : Request) (trace : List Request) :
    movesOf (request :: trace) = (if request.isMove then [request] else []) ++ movesOf trace := by
  rw [movesOf, List.filter_cons]
  split <;> rfl

@[simp] theorem movesOf_append (first second : List Request) :
    movesOf (first ++ second) = movesOf first ++ movesOf second :=
  List.filter_append ..

/-- All calls of stages are moves. -/
theorem stageCallsOf_movesOf (trace : List Request) :
    stageCallsOf (movesOf trace) = stageCallsOf trace := by
  rw [stageCallsOf, stageCallsOf, movesOf, List.filterMap_filter]
  refine List.filterMap_congr fun request _ => ?_
  cases request with
  | operate position call => rfl
  | _ => exact ite_self none

/-! ### Turns in a trace -/

/-- A request that is made outside of turns. -/
def Request.IsAside : Request → Prop
  | .inspect _ | .transform .. | .operate .. | .emit (.stage ..) => False
  | _ => True

theorem Request.IsNote.isAside (request : Request) (note : request.IsNote) : request.IsAside := by
  cases request with
  | warn notice => trivial
  | dump record => trivial
  | _ => cases note

theorem Request.Settles.isAside (request : Request) (settles : request.Settles) :
    request.IsAside := by
  cases request with
  | connection call => trivial
  | warn notice => trivial
  | _ => cases settles

theorem Request.TidiesUp.isAside (request : Request) (tidies : request.TidiesUp) :
    request.IsAside := by
  cases request with
  | cleanUp position => trivial
  | warn notice => trivial
  | _ => cases tidies

theorem Request.IsAside.not_isMove {request : Request} (aside : request.IsAside) :
    request.isMove = false := by
  cases request with
  | emit event =>
      cases event with
      | run attributes moment => rfl
      | stage attributes moment => cases aside
  | _ => first | rfl | cases aside

theorem movesOf_asides {trace : List Request} (asides : ∀ request ∈ trace, request.IsAside) :
    movesOf trace = [] :=
  List.filter_eq_nil_iff.mpr fun request mem => by simp [(asides request mem).not_isMove]

/-- A trace holds the requests of turns, with nothing around them that belongs to a turn. -/
def HasTurns (trace turns : List Request) : Prop :=
  ∃ front back, trace = front ++ turns ++ back ∧ (∀ request ∈ front, request.IsAside) ∧
    ∀ request ∈ back, request.IsAside

namespace HasTurns

variable {trace turns : List Request}

theorem self (turns : List Request) : HasTurns turns turns :=
  ⟨[], [], by simp, by simp, by simp⟩

theorem prepend {more : List Request} (holds : HasTurns trace turns)
    (asides : ∀ request ∈ more, request.IsAside) : HasTurns (more ++ trace) turns := by
  obtain ⟨front, back, rfl, before, behind⟩ := holds
  refine ⟨more ++ front, back, by simp, ?_, behind⟩
  exact fun request mem => (List.mem_append.mp mem).elim (asides request) (before request)

theorem append {more : List Request} (holds : HasTurns trace turns)
    (asides : ∀ request ∈ more, request.IsAside) : HasTurns (trace ++ more) turns := by
  obtain ⟨front, back, rfl, before, behind⟩ := holds
  refine ⟨front, back ++ more, by simp, before, ?_⟩
  exact fun request mem => (List.mem_append.mp mem).elim (behind request) (asides request)

end HasTurns

namespace Run

variable (run : Run) (around : Surroundings) (vars : Variables) (tokens : TokenPool)

/-! ### The moves of a turn -/

/-- The moves in the work of a turn. -/
def workMoves (account : Account) : List Request :=
  let transforming := transformRequests account.call.vars account.stage account.given
  let calling := Request.operate account.position account.call
  match account.call.operation with
  | .read => calling :: onSuccess account.report fun _ => transforming
  | .write | .writeThenRead => transforming ++ onSuccess account.transformed fun _ => [calling]

/-- The moves of a turn. -/
def movesIn (account : Account) : List Request :=
  .inspect run.token :: onSuccess account.checked fun _ =>
    .emit (.stage account.attributes .started) :: workMoves account

theorem recordRequests_rests (checkpoint : Checkpoint) (stage : Option String)
    (payload : Payload) : movesOf (run.recordRequests checkpoint stage payload) = [] := by
  rw [recordRequests]
  split <;> rfl

theorem movesOf_transformRequests (stage : StageConfig) (payload : Payload) :
    movesOf (transformRequests vars stage payload) = transformRequests vars stage payload := by
  rw [transformRequests]
  split <;> rfl

/-- The moves among the requests of the work of a turn. -/
theorem movesOf_workRequests (account : Account) :
    movesOf (run.workRequests account) = workMoves account := by
  rw [workRequests, workMoves]
  cases account.call.operation <;> cases account.report <;> cases account.transformed <;>
    simp [recordRequests_rests, movesOf_transformRequests, Request.isMove]

/-- The moves among the requests of a turn. -/
theorem movesOf_requestsOf (account : Account) :
    movesOf (run.requestsOf account) = run.movesIn account := by
  rw [requestsOf, movesIn, Account.attributes]
  cases account.checked with
  | error error => rfl
  | ok done => cases account.failure.isNone <;> simp [movesOf_workRequests, Request.isMove]

/-- The moves of a list of turns, turn by turn. -/
theorem movesOf_requestsUpToFailure_cons (account : Account) (rest : List Account) :
    movesOf (run.requestsUpToFailure (account :: rest)) =
      run.movesIn account ++
        if account.failure.isNone then movesOf (run.requestsUpToFailure rest) else [] := by
  rw [requestsUpToFailure, movesOf_append, movesOf_requestsOf]
  split <;> rfl

theorem stageCallsOf_transformRequests (stage : StageConfig) (payload : Payload) :
    stageCallsOf (transformRequests vars stage payload) = [] :=
  stageCallsOf_eq_nil (transformRequests_spares vars stage payload)

/-- **A turn comes to its call, or it does not.** If it does not, it fails. If it does, nothing comes
behind the call but the transformation of what was read. -/
theorem movesIn_cases (account : Account) :
    (stageCallsOf (run.movesIn account) = [] ∧ account.failure ≠ none) ∨
      ∃ front back, account.checked = .ok () ∧
        run.movesIn account = front ++ .operate account.position account.call :: back ∧
        stageCallsOf front = [] ∧
        (back = [] ∨ account.call.operation = .read ∧ account.report.isOk ∧
          back = transformRequests account.call.vars account.stage account.given) := by
  have spared := stageCallsOf_transformRequests account.call.vars account.stage account.given
  have starting : stageCallsOf
      [.inspect run.token, .emit (.stage account.attributes .started)] = [] := rfl
  rw [movesIn, workMoves, Account.failure, Account.hurdles, Account.work]
  cases account.checked with
  | error error => exact .inl ⟨rfl, by simp⟩
  | ok done =>
      cases operation : account.call.operation with
      | read =>
          refine .inr ⟨[.inspect run.token, .emit (.stage account.attributes .started)], _, rfl, rfl,
            starting, ?_⟩
          cases account.report with
          | error error => exact .inl rfl
          | ok report => exact .inr ⟨rfl, rfl, rfl⟩
      | write =>
          cases account.transformed with
          | error error => exact .inl ⟨by simp [spared, Request.stageCall?], by simp⟩
          | ok sent =>
              refine .inr ⟨.inspect run.token :: .emit (.stage account.attributes .started) ::
                transformRequests account.call.vars account.stage account.given, [], rfl, rfl, ?_,
                .inl rfl⟩
              simp [spared, Request.stageCall?]
      | writeThenRead =>
          cases account.transformed with
          | error error => exact .inl ⟨by simp [spared, Request.stageCall?], by simp⟩
          | ok sent =>
              refine .inr ⟨.inspect run.token :: .emit (.stage account.attributes .started) ::
                transformRequests account.call.vars account.stage account.given, [], rfl, rfl, ?_,
                .inl rfl⟩
              simp [spared, Request.stageCall?]

/-- The call of a turn in its moves. -/
theorem stageCallsOf_movesIn {account : Account} {front back : List Request}
    (moves : run.movesIn account = front ++ .operate account.position account.call :: back)
    (spared : stageCallsOf front = [])
    (behind : back = [] ∨ account.call.operation = .read ∧ account.report.isOk ∧
      back = transformRequests account.call.vars account.stage account.given) :
    stageCallsOf (run.movesIn account) = [(account.position, account.call)] := by
  have sparedBehind : stageCallsOf back = [] := by
    obtain rfl | ⟨-, -, rfl⟩ := behind
    · rfl
    · exact stageCallsOf_transformRequests _ _ _
  rw [moves, stageCallsOf_append, stageCallsOf_cons, spared, sparedBehind]
  rfl

/-- A turn without a failure has called its stage. -/
theorem stageCallsOf_movesIn_of_succeeds {account : Account} (succeeds : account.failure = none) :
    stageCallsOf (run.movesIn account) = [(account.position, account.call)] := by
  obtain ⟨-, fails⟩ | ⟨front, back, -, moves, spared, behind⟩ := run.movesIn_cases account
  · exact absurd succeeds fails
  · exact run.stageCallsOf_movesIn moves spared behind

/-- What is left of a turn once it has called its stage. -/
theorem movesIn_behind_call {account : Account} {before left : List Request}
    (split : run.movesIn account = before ++ left) (called : stageCallsOf before ≠ []) :
    stageCallsOf before = [(account.position, account.call)] ∧
      ∀ request ∈ left, account.call.operation = .read ∧ account.report.isOk ∧
        request ∈ transformRequests account.call.vars account.stage account.given := by
  obtain ⟨none, -⟩ | ⟨front, back, -, moves, spared, behind⟩ := run.movesIn_cases account
  · rw [split, stageCallsOf_append] at none
    exact absurd (List.append_eq_nil_iff.mp none).1 called
  · have one := run.stageCallsOf_movesIn moves spared behind
    rw [split, stageCallsOf_append] at one
    rw [split] at moves
    obtain ⟨more, within, -⟩ | ⟨past, rfl, rest⟩ := List.append_eq_append_iff.mp moves
    · rw [within, stageCallsOf_append] at spared
      exact absurd (List.append_eq_nil_iff.mp spared).1 called
    · cases past with
      | nil =>
          rw [List.append_nil, spared] at called
          exact absurd rfl called
      | cons first past =>
          rw [List.cons_append] at rest
          obtain ⟨rfl, rfl⟩ := List.cons_eq_cons.mp rest
          have spares : stageCallsOf (past ++ left) = [] := by
            obtain none | ⟨-, -, transforming⟩ := behind
            · rw [none, stageCallsOf_nil]
            · rw [transforming, stageCallsOf_transformRequests]
          rw [stageCallsOf_append] at spares
          rw [(List.append_eq_nil_iff.mp spares).2, List.append_nil] at one
          refine ⟨one, fun request mem => ?_⟩
          have within := List.mem_append_right past mem
          obtain none | ⟨reads, reported, transforming⟩ := behind
          · rw [none] at within
            cases within
          · rw [transforming] at within
            exact ⟨reads, reported, within⟩

/-- A turn calls one stage at most. -/
theorem length_calls_movesIn (account : Account) :
    (stageCallsOf (run.movesIn account)).length ≤ 1 := by
  obtain ⟨none, -⟩ | ⟨front, back, -, moves, spared, behind⟩ := run.movesIn_cases account
  · rw [none]
    exact Nat.zero_le 1
  · rw [run.stageCallsOf_movesIn moves spared behind]
    exact Nat.le_refl 1

/-- In its work, a turn does not look at a token. -/
theorem inspect_not_mem_workMoves (account : Account) (token : Nat) :
    .inspect token ∉ workMoves account := by
  have transforming :
      .inspect token ∉ transformRequests account.call.vars account.stage account.given := by
    rw [transformRequests]
    split <;> simp
  rw [workMoves]
  cases account.call.operation <;> cases account.report <;> cases account.transformed <;>
    simp [transforming]

/-- The look at the token is the first move of a turn, and there is no other. -/
theorem eq_nil_of_inspect {account : Account} {token : Nat} {before after : List Request}
    (split : run.movesIn account = before ++ .inspect token :: after) : before = [] := by
  cases before with
  | nil => rfl
  | cons first before =>
      rw [List.cons_append] at split
      obtain ⟨-, rest⟩ := List.cons_eq_cons.mp split
      have mem : .inspect token ∈ before ++ .inspect token :: after := by simp
      rw [← rest] at mem
      cases checked : account.checked with
      | error error => simp [checked] at mem
      | ok done => simp [checked, inspect_not_mem_workMoves] at mem

/-- **No look at the token comes behind the last stage.** -/
theorem length_calls_before_inspect {accounts : List Account} {token : Nat}
    {before after : List Request}
    (split : movesOf (run.requestsUpToFailure accounts) = before ++ .inspect token :: after) :
    (stageCallsOf before).length < accounts.length := by
  induction accounts generalizing before with
  | nil => simp [requestsUpToFailure] at split
  | cons account rest ih =>
      have atMostOne := run.length_calls_movesIn account
      rw [movesOf_requestsUpToFailure_cons] at split
      obtain ⟨further, rfl, behind⟩ | ⟨left, moves, behind⟩ := List.append_eq_append_iff.mp split
      · -- the look belongs to a later turn
        cases fails : account.failure with
        | some error => simp [fails] at behind
        | none =>
            simp only [fails, Option.isNone_none, reduceIte] at behind
            have later := ih behind
            rw [stageCallsOf_append, List.length_append, List.length_cons]
            omega
      · cases left with
        | nil =>
            -- the look is the first move of the next turn
            rw [List.append_nil] at moves
            cases fails : account.failure with
            | some error => simp [fails] at behind
            | none =>
                simp only [fails, Option.isNone_none, reduceIte] at behind
                have later := ih (show _ = [] ++ _ from behind.symm)
                rw [← moves, List.length_cons]
                omega
        | cons first left =>
            obtain ⟨rfl, -⟩ := List.cons.inj behind
            rw [run.eq_nil_of_inspect moves]
            exact Nat.succ_pos _

/-! ### The turns in a trace -/

/-- The work of a run consists of its turns, and then of notes. -/
theorem drive_turns :
    HasTurns (Attempt.exec around.answer tokens (run.drive run.transaction vars)).trace
      (run.requestsUpToFailure (run.accounts around vars tokens)) := by
  obtain ⟨-, trace⟩ := run.turns_exec around vars tokens 0 run.pipeline.stages run.beginning
  rcases done : Attempt.exec around.answer tokens
    (run.turns run.transaction vars 0 run.pipeline.stages run.beginning) with
    ⟨outcome, between, requests⟩
  rw [done] at trace
  obtain rfl : requests = run.requestsUpToFailure (run.accounts around vars tokens) := trace
  rw [drive]
  cases outcome with
  | error error =>
      rw [Attempt.exec_then_error _ done]
      exact .self _
  | ok progress =>
      rw [Attempt.exec_then_ok _ done]
      exact (HasTurns.self _).append
        (((run.conclude_asks progress).mono Request.IsNote.isAside).trace around.answer between)

/-- Around the turns, the transaction begins. -/
theorem perform_turns :
    HasTurns ((run.perform run.handedOut vars).exec around.answer tokens).trace
      (if (run.begun around).isOk then
        run.requestsUpToFailure (run.accounts around vars tokens)
      else []) := by
  have beginning : ∀ request ∈ run.beginRequests, request.IsAside := by
    intro request mem
    rw [beginRequests] at mem
    split at mem
    · rw [List.mem_singleton.mp mem]
      trivial
    · cases mem
  rw [perform_exec]
  cases run.begun around with
  | error error =>
      rw [← List.append_nil run.beginRequests]
      exact (HasTurns.self []).prepend beginning
  | ok done => exact (run.drive_turns around vars tokens).prepend beginning

/-- Around that, payloads are recorded, the connection is asked for, and the run is settled. -/
theorem carryOut_turns :
    HasTurns (run.carryOut.exec around.answer tokens).trace
      (run.requestsUpToFailure (run.comingTurns around tokens)) := by
  have recorded := ((run.record_asks .input none run.input).mono
    Request.IsNote.isAside).trace around.answer tokens
  have sameTokens := run.record_tokens around tokens .input none run.input
  rw [comingTurns, opening, turnAccounts, bindings]
  rw [carryOut, Program.exec_then, sameTokens, ← resolved]
  cases run.resolved with
  | error error => exact (HasTurns.self []).prepend recorded
  | ok vars =>
      have acquiring : ∀ request ∈
          [Request.connection (.acquire run.config.connectionName)], request.IsAside := by
        intro request mem
        rw [List.mem_singleton.mp mem]
        trivial
      simp only [Program.exec_then, run.acquire_exec]
      cases around.faults.answer (.acquire run.config.connectionName) with
      | error error =>
          simp only [Except.map, Program.exec_pure]
          exact ((HasTurns.self []).prepend acquiring).prepend recorded
      | ok done =>
          have performed := run.perform_turns around vars tokens
          have completed := fun tx outcome tokens =>
            ((complete_asks tx outcome).mono Request.Settles.isAside).trace around.answer tokens
          have resultRecorded := fun outcome tokens =>
            ((run.recordResult_asks outcome).mono Request.IsNote.isAside).trace
              around.answer tokens
          have settled := fun tx outcome tokens result between => List.forall_mem_append.mpr
            ⟨completed tx outcome tokens, resultRecorded result between⟩
          simp only [Except.map, Program.exec_then, Program.exec_pure, List.append_nil]
          cases begins : run.begun around with
          | error error =>
              rw [begins] at performed
              exact ((performed.append (settled _ _ _ _ _)).prepend acquiring).prepend recorded
          | ok done =>
              rw [begins] at performed
              exact ((performed.append (settled _ _ _ _ _)).prepend acquiring).prepend recorded

/-- Closing a run tells how it ended, and nothing of a stage. -/
theorem close_isAside (result : Except PipelineError RunOutput) :
    (run.close result).Asks Request.IsAside := by
  cases result with
  | ok output => exact .bind (.ask trivial) fun _ => .pure _
  | error error =>
      rw [close]
      split
      · exact .bind (.ask trivial) fun _ => .bind (.ask trivial) fun _ => .pure _
      · exact .bind (.ask trivial) fun _ => .bind (.ask trivial) fun _ => .pure _

/-- **The turns in the trace of a run.** What a run does outside of its turns is not heard of as the
work of a stage, transforms nothing and looks at no token. -/
theorem program_turns :
    HasTurns (run.program.exec around.answer tokens).trace
      (run.requestsUpToFailure (run.comingTurns around tokens)) := by
  have told : (run.tell .started).exec around.answer tokens =
      ⟨(), tokens, [.emit (.run run.attributes .started)]⟩ := rfl
  have telling : ∀ request ∈ [Request.emit (.run run.attributes .started)], request.IsAside := by
    intro request mem
    rw [List.mem_singleton.mp mem]
    trivial
  rw [program, Program.exec_then, told, Program.exec_then, Program.exec_then]
  have carried := run.carryOut_turns around tokens
  generalize run.carryOut.exec around.answer tokens = carriedOut at *
  have cleaned := ((cleanUp_asks 0 run.pipeline.stages).mono Request.TidiesUp.isAside).trace
    around.answer carriedOut.tokens
  have closed := (run.close_isAside carriedOut.value).trace around.answer
    ((cleanUp 0 run.pipeline.stages).exec around.answer carriedOut.tokens).tokens
  exact (carried.append (List.forall_mem_append.mpr ⟨cleaned, closed⟩)).prepend telling

/-- **The moves of a run** are those of its turns, up to the first that fails. -/
theorem program_moves :
    movesOf (run.program.exec around.answer tokens).trace =
      movesOf (run.requestsUpToFailure (run.comingTurns around tokens)) := by
  obtain ⟨front, back, trace, before, behind⟩ := run.program_turns around tokens
  rw [trace, movesOf_append, movesOf_append, movesOf_asides before, movesOf_asides behind,
    List.nil_append, List.append_nil]

end Run

end DocPipeline
