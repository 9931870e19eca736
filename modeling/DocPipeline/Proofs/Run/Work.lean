import DocPipeline.Proofs.Run.Execution
import DocPipeline.Run.Whole

/-!
# What the work of a run leaves alone

Between its beginning and its commit a run lets its stages work and puts its answer together. None
of that asks anything of the connection: stages get the connection in their calls. Nor does it look
at any token but that of the run. And as long as the run has its connection, a database error in
this part comes from a stage.

## Main definitions

* `Request.IsWork`: what the work on a connection may ask.

## Main results

* `Run.drive_isWork`: the turns and the conclusion ask nothing else.
* `Run.drive_asks`: so they ask nothing of a connection.
* `Run.drive_passesOn`: a database error of theirs is the answer of a stage.
-/

namespace DocPipeline

variable {α β : Type}

/-- A request that asks nothing of a connection. -/
def Request.SparesConnection (request : Request) : Prop := request.connectionCall? = none

/-- A request that only tells somebody something. -/
def Request.IsRemark : Request → Prop
  | .emit _ | .warn _ | .dump _ => True
  | _ => False

/-- A remark that is only noted: a warning, or the record of a payload. -/
def Request.IsNote : Request → Prop
  | .warn _ | .dump _ => True
  | _ => False

/-- Remarks ask nothing of a connection. -/
theorem Request.IsRemark.sparesConnection (request : Request) (remark : request.IsRemark) :
    request.SparesConnection := by
  cases request with
  | connection call => cases remark
  | inspect token => rfl
  | transform reference payload vars => rfl
  | operate position call => rfl
  | cleanUp position => rfl
  | emit event => rfl
  | warn notice => rfl
  | dump record => rfl

/-- Notes are remarks. -/
theorem Request.IsNote.isRemark (request : Request) (note : request.IsNote) :
    request.IsRemark := by
  cases request with
  | warn notice => trivial
  | dump record => trivial
  | _ => cases note

/-- So they ask nothing of a connection. -/
theorem Request.IsNote.sparesConnection (request : Request) (note : request.IsNote) :
    request.SparesConnection :=
  Request.IsRemark.sparesConnection request (note.isRemark request)

/-- A request that the work on a connection may make in a run with the token of a number: no other
token is looked at, nothing is asked of the connection, and nobody cleans up. -/
def Request.IsWork (token : Nat) : Request → Prop
  | .inspect other => other = token
  | .connection _ | .cleanUp _ => False
  | .transform .. | .operate .. | .emit _ | .warn _ | .dump _ => True

theorem Request.IsNote.isWork (token : Nat) (request : Request) (note : request.IsNote) :
    request.IsWork token := by
  cases request with
  | warn notice => trivial
  | dump record => trivial
  | _ => cases note

theorem Request.IsWork.sparesConnection {token : Nat} (request : Request)
    (work : request.IsWork token) : request.SparesConnection := by
  cases request with
  | connection call => cases work
  | _ => rfl

namespace Run

variable (run : Run) (tx : Transaction) (vars : Variables)

/-! ### What the work asks -/

open Attempt (Asks)

/-- Recording a payload is a note. -/
theorem record_asks (checkpoint : Checkpoint) (stage : Option String) (payload : Payload) :
    (run.record checkpoint stage payload).Asks Request.IsNote := by
  rw [record]
  split
  · exact .ask trivial
  · exact .pure ()

/-- So it asks nothing of a connection. -/
theorem record_spares (checkpoint : Checkpoint) (stage : Option String) (payload : Payload) :
    (run.record checkpoint stage payload).Asks Request.SparesConnection :=
  (run.record_asks checkpoint stage payload).mono Request.IsNote.sparesConnection

/-- A run looks at its own token. -/
theorem check_asks (stage : StageConfig) : Asks (Request.IsWork run.token) (run.check stage) := by
  refine .bind (.ask rfl) fun token => ?_
  split
  · exact .pure ()
  · exact .throw _

/-- A transformation asks what belongs to the work. -/
theorem transformed_asks (token : Nat) (stage : StageConfig) (payload : Payload) :
    Asks (Request.IsWork token) (transformed stage payload vars) := by
  rw [transformed]
  split
  · exact .pure payload
  · refine .bind (.ask trivial) fun reply => ?_
    split
    · exact .pure _
    · exact .throw _
    · exact .throw _

/-- So does the call of a stage. -/
theorem operate_asks (token position : Nat) (operation : Operation) (payload : Option Payload) :
    Asks (Request.IsWork token) (operate tx position operation payload vars) := by
  rw [operate]
  split
  · exact .throw _
  · refine .bind (.ask trivial) fun reply => ?_
    split
    · exact .pure _
    · exact .throw _

/-- The work of a turn asks nothing else. -/
theorem work_asks (store : SlotStore) (position : Nat) (stage : StageConfig)
    (operation : Operation) :
    Asks (Request.IsWork run.token) (run.work tx vars store position stage operation) := by
  have recorded (checkpoint : Checkpoint) (stage : Option String) (payload : Payload) :=
    (run.record_asks checkpoint stage payload).mono (Request.IsNote.isWork run.token)
  cases operation with
  | write =>
      refine .bind (transformed_asks vars run.token stage _) fun sent => ?_
      refine .bind (.lift (recorded _ _ sent)) fun _ => ?_
      exact .bind (operate_asks tx vars run.token position _ _) fun report => .pure _
  | read =>
      refine .bind (operate_asks tx vars run.token position _ _) fun report => ?_
      refine .bind (transformed_asks vars run.token stage _) fun payload => ?_
      exact .bind (.lift (recorded _ _ payload)) fun _ => .pure _
  | writeThenRead =>
      refine .bind (transformed_asks vars run.token stage _) fun sent => ?_
      refine .bind (.lift (recorded _ _ sent)) fun _ => ?_
      refine .bind (operate_asks tx vars run.token position _ _) fun report => ?_
      exact .bind (.lift (recorded _ _ _)) fun _ => .pure _

/-- Nor does a turn. -/
theorem turn_asks (progress : Progress) (position : Nat) (stage : StageConfig) :
    Asks (Request.IsWork run.token) (run.turn tx vars progress position stage) := by
  refine .bind (run.check_asks stage) fun _ => ?_
  refine .bind (.ask trivial) fun _ => ?_
  refine .bind (run.work_asks tx vars _ position stage _) fun result => ?_
  exact .bind (.ask trivial) fun _ => .pure _

/-- Nor do turns in a row. -/
theorem turns_asks (position : Nat) (stages : List BoundStage) (progress : Progress) :
    Asks (Request.IsWork run.token) (run.turns tx vars position stages progress) := by
  induction stages generalizing position progress with
  | nil => exact .pure progress
  | cons bound rest ih =>
      exact .bind (run.turn_asks tx vars progress position bound.config) fun progress =>
        ih (position + 1) progress

/-- Taking the result out of the output slot takes notes only. -/
theorem outputOf_asks (store : SlotStore) :
    (run.outputOf store).Asks Request.IsNote := by
  rw [outputOf]
  split
  · exact .pure _
  · exact .bind (.ask trivial) fun _ => .pure _

/-- Choosing the statistics takes notes only. -/
theorem withStatistics_asks (progress : Progress) (output : StageResult) :
    (run.withStatistics progress output).Asks Request.IsNote := by
  rw [withStatistics]
  split
  · exact .pure _
  · exact .pure _
  · split
    · exact .pure _
    · split
      · exact .pure _
      · exact .bind (.ask trivial) fun _ => .pure _

/-- Merging asks nothing at all. -/
theorem merged_asks (plan : MergePlan) (store : SlotStore) {kind : Request → Prop} :
    Asks kind (merged plan store) := by
  rw [merged]
  split
  · exact .pure _
  · exact .throw _

/-- The report of an executing run takes notes only. -/
theorem report_asks (progress : Progress) :
    Asks Request.IsNote (run.report progress) := by
  refine .bind (.lift (run.outputOf_asks _)) fun output => ?_
  refine .bind (.lift (run.withStatistics_asks progress output)) fun output => ?_
  refine .bind ?_ fun output => .pure _
  rw [withMerged]
  split
  · exact .pure _
  · exact .bind (merged_asks _ _) fun payload => .pure _

/-- The conclusion of a run takes notes only. -/
theorem conclude_asks (progress : Progress) :
    Asks Request.IsNote (run.conclude progress) := by
  rw [conclude]
  split
  · exact .pure _
  · split
    · exact .bind (merged_asks _ _) fun payload => .pure _
    · exact .bind (.lift (run.outputOf_asks _)) fun output => .pure _
  · exact .bind (.lift (run.outputOf_asks _)) fun output => .pure _
  · exact .bind (run.report_asks progress) fun result => .pure _

/-- **The turns and the conclusion of a run** ask what belongs to the work on a connection. -/
theorem drive_isWork : Asks (Request.IsWork run.token) (run.drive tx vars) :=
  .bind (run.turns_asks tx vars 0 _ _) fun progress =>
    (run.conclude_asks progress).mono (Request.IsNote.isWork run.token)

/-- **The work of a run asks nothing of a connection.** -/
theorem drive_asks : Asks Request.SparesConnection (run.drive tx vars) :=
  (run.drive_isWork tx vars).mono Request.IsWork.sparesConnection

end Run

/-! ### Whose database errors these are -/

namespace Attempt

variable {around : Surroundings}

/-- A program fails with a database error only if a stage that it called failed so. -/
def PassesOn (around : Surroundings) (attempt : Attempt α) : Prop :=
  ∀ tokens error, (exec around.answer tokens attempt).value = .error (.database error) →
    ∃ position call, Request.operate position call ∈ (exec around.answer tokens attempt).trace ∧
      (around.operate position call).outcome = .error (.database error)

namespace PassesOn

/-- A value is no failure. -/
theorem pure (value : α) : PassesOn around (Pure.pure value : Attempt α) := by
  intro tokens error failed
  cases failed

/-- A failure of another kind. -/
theorem throw {error : PipelineError} (other : ∀ cause, error ≠ .database cause) :
    PassesOn around (MonadExcept.throw error : Attempt α) := by
  intro tokens cause failed
  exact absurd (Except.error.inj failed) (other cause)

/-- A program that cannot fail does not. -/
theorem lift (program : Program α) : PassesOn around (liftM program : Attempt α) := by
  intro tokens error failed
  rw [exec_lift] at failed
  cases failed

/-- A single request is no failure, whatever is replied. -/
theorem ask (request : Request) : PassesOn around (Attempt.ask request) :=
  lift (Program.ask request)

/-- The stages called by the parts are called by the whole. -/
theorem bind {attempt : Attempt α} {after : α → Attempt β} (first : PassesOn around attempt)
    (second : ∀ value, PassesOn around (after value)) :
    PassesOn around (attempt >>= after) := by
  intro tokens error failed
  have blamed := first tokens error
  rcases done : exec around.answer tokens attempt with ⟨outcome, between, trace⟩
  rw [done] at blamed
  cases outcome with
  | error cause =>
      rw [exec_then_error after done] at failed ⊢
      obtain rfl : cause = .database error := Except.error.inj failed
      exact blamed rfl
  | ok value =>
      rw [exec_then_ok after done] at failed ⊢
      obtain ⟨position, call, called, answered⟩ := second value between error failed
      exact ⟨position, call, List.mem_append_right trace called, answered⟩

end PassesOn

end Attempt

namespace Run

open Attempt (PassesOn)

variable {around : Surroundings} (run : Run) {tx : Transaction} {connection : Connection}
  (vars : Variables)

/-- With a connection at hand, a stage is called once and its answer passed on. -/
theorem operate_exec (live : tx.connection = some connection) (position : Nat)
    (operation : Operation) (payload : Option Payload) (tokens : TokenPool) :
    Attempt.exec around.answer tokens (operate tx position operation payload vars) =
      let call : StageCall := ⟨operation, payload, vars, connection.autoCommit⟩
      ⟨(around.operate position call).outcome,
        Surroundings.cancelling tokens (around.operate position call).cancelling,
        [.operate position call]⟩ := by
  rw [operate]
  rw [live, Attempt.exec_then_ok _ (Attempt.exec_ask _ _ _)]
  cases answered : (around.operate position
      ⟨operation, payload, vars, connection.autoCommit⟩).outcome with
  | ok report => simp [Surroundings.answer, answered]
  | error cause => simp [Surroundings.answer, answered]

end Run

end DocPipeline
