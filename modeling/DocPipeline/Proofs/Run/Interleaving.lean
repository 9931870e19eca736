import DocPipeline.Proofs.Run.StageCalls
import DocPipeline.Run.Interleaving
import DocPipeline.Run.Tally
import Mathlib.Algebra.BigOperators.Group.List.Basic
import Mathlib.Algebra.Ring.Nat
import Mathlib.Data.List.Basic
import Mathlib.Data.List.Induction

/-!
# Runs side by side

Runs of one pipeline share its stages, its connections, and the records that are kept of them. Yet
each goes on as if it were alone, whoever takes the next step: all that a run gets to see of the
others is its token, and as long as nobody else touches that, what is left of a run would end alone
as it would have ended from the start.

## Main definitions

* `TokenPool.AgreeAt`: two pools hold the same token under a number.
* `Interleaving.start`, `Interleaving.requestsOf`: programs about to begin, and the requests of one.
* `Interleaving.Continues`: what is left of a program ends as the program does alone.

## Main results

* `Program.exec_agreeAt`: a program that looks at one token depends on no other.
* `Interleaving.Continues.advance`: one step, of whichever program, leaves that so.
* `Run.side_by_side`: runs side by side do as each does alone.
-/

namespace DocPipeline

variable {α : Type}

/-! ### Tokens -/

/-- Two pools hold the same token under a number, or none. -/
def TokenPool.AgreeAt (number : Nat) (pool other : TokenPool) : Prop :=
  pool.tokens[number]? = other.tokens[number]?

namespace TokenPool.AgreeAt

variable {number : Nat} {pool other : TokenPool}

theorem get_eq (agree : pool.AgreeAt number other) : pool.get number = other.get number := by
  rw [AgreeAt] at agree
  rw [get, get, List.getD_eq_getElem?_getD, List.getD_eq_getElem?_getD, agree]

theorem cancel (agree : pool.AgreeAt number other) (token : Nat) (reason : String) :
    (pool.cancel token reason).AgreeAt number (other.cancel token reason) := by
  rw [AgreeAt] at agree ⊢
  rw [TokenPool.cancel, TokenPool.cancel, List.getElem?_modify, List.getElem?_modify, agree]

theorem cancelling (agree : pool.AgreeAt number other) (requests : List (Nat × String)) :
    (Surroundings.cancelling pool requests).AgreeAt number
      (Surroundings.cancelling other requests) := by
  induction requests generalizing pool other with
  | nil => exact agree
  | cons request rest ih => exact ih (agree.cancel request.1 request.2)

/-- Pools of one size that give the same token for a number hold the same under it. -/
theorem of_get_eq (sameSize : pool.tokens.length = other.tokens.length)
    (same : pool.get number = other.get number) : pool.AgreeAt number other := by
  rw [AgreeAt]
  by_cases within : number < pool.tokens.length
  · have withinOther : number < other.tokens.length := sameSize ▸ within
    rw [get, get, List.getD_eq_getElem?_getD, List.getD_eq_getElem?_getD] at same
    rw [List.getElem?_eq_getElem within, List.getElem?_eq_getElem withinOther] at same ⊢
    exact congrArg some same
  · rw [List.getElem?_eq_none (Nat.le_of_not_lt within),
      List.getElem?_eq_none (sameSize ▸ Nat.le_of_not_lt within)]

end TokenPool.AgreeAt

/-- Cancelling takes no token away. -/
theorem Surroundings.length_cancelling (pool : TokenPool) (requests : List (Nat × String)) :
    (cancelling pool requests).tokens.length = pool.tokens.length := by
  induction requests generalizing pool with
  | nil => rfl
  | cons request rest ih => exact (ih _).trans (List.length_modify ..)

/-- No answer takes a token away. -/
theorem Surroundings.length_answer (around : Surroundings) (request : Request) (pool : TokenPool) :
    (around.answer request pool).2.tokens.length = pool.tokens.length := by
  cases request with
  | operate position call => exact length_cancelling pool _
  | _ => rfl

/-! ### Programs that look at one token -/

/-- A request that looks at no token but that of a number. -/
def Request.LooksOnlyAt (token : Nat) : Request → Prop
  | .inspect other => other = token
  | _ => True

theorem Request.IsWork.looksOnlyAt {token : Nat} (request : Request)
    (work : request.IsWork token) : request.LooksOnlyAt token := by
  cases request with
  | inspect other => exact work
  | _ => trivial

theorem Request.IsNote.looksOnlyAt (token : Nat) (request : Request) (note : request.IsNote) :
    request.LooksOnlyAt token :=
  IsWork.looksOnlyAt request (note.isWork token)

theorem Request.IsRemark.looksOnlyAt (token : Nat) (request : Request)
    (remark : request.IsRemark) : request.LooksOnlyAt token := by
  cases request with
  | inspect other => cases remark
  | _ => trivial

theorem Request.Settles.looksOnlyAt (token : Nat) (request : Request)
    (settles : request.Settles) : request.LooksOnlyAt token := by
  cases request with
  | inspect other => cases settles
  | _ => trivial

theorem Request.TidiesUp.looksOnlyAt (token : Nat) (request : Request)
    (tidies : request.TidiesUp) : request.LooksOnlyAt token := by
  cases request with
  | inspect other => cases tidies
  | _ => trivial

/-- What is replied to a request that looks at one token depends on no other, and neither does what
becomes of that token. -/
theorem Surroundings.answer_agreeAt (around : Surroundings) {token : Nat} {request : Request}
    {pool other : TokenPool} (looks : request.LooksOnlyAt token)
    (agree : pool.AgreeAt token other) :
    (around.answer request pool).1 = (around.answer request other).1 ∧
      (around.answer request pool).2.AgreeAt token (around.answer request other).2 := by
  cases request with
  | inspect number =>
      obtain rfl : number = token := looks
      exact ⟨agree.get_eq, agree⟩
  | operate position call => exact ⟨rfl, agree.cancelling _⟩
  | _ => exact ⟨rfl, agree⟩

/-- **A program that looks at one token** goes the same way whatever the others are. -/
theorem Program.exec_agreeAt (around : Surroundings) {token : Nat} {program : Program α}
    {pool other : TokenPool} (looks : program.Asks (Request.LooksOnlyAt token))
    (agree : pool.AgreeAt token other) :
    (program.exec around.answer pool).value = (program.exec around.answer other).value ∧
      (program.exec around.answer pool).trace = (program.exec around.answer other).trace := by
  induction program generalizing pool other with
  | done value => exact ⟨rfl, rfl⟩
  | step request next ih =>
      obtain ⟨reply, rest⟩ := around.answer_agreeAt looks.1 agree
      obtain ⟨value, trace⟩ := ih (around.answer request pool).1 (looks.2 _) rest
      rw [exec_step, exec_step, ← reply]
      exact ⟨value, congrArg (request :: ·) trace⟩

namespace Run

variable (run : Run)

/-- The work of a run on its connection, with the beginning of the transaction, looks at the token
of the run. -/
theorem perform_looksOnlyAt (tx : Transaction) (vars : Variables) :
    (run.perform tx vars).Asks (Request.LooksOnlyAt run.token) := by
  have begins : tx.begin.Asks (Request.LooksOnlyAt run.token) := by
    rw [Transaction.begin, Transaction.setAutoCommit]
    split
    · split
      · exact .pure _
      · exact .bind (.ask trivial) fun _ => .pure _
    · exact .pure _
  refine .bind begins fun result => ?_
  split
  · exact .bind ((run.drive_isWork _ vars).mono Request.IsWork.looksOnlyAt) fun _ => .pure _
  · exact .pure _

/-- **A run looks at its own token only.** -/
theorem program_looksOnlyAt : run.program.Asks (Request.LooksOnlyAt run.token) := by
  refine .bind (.ask trivial) fun _ => ?_
  refine .bind ?_ fun outcome => ?_
  · refine .bind ((run.record_asks _ _ _).mono (Request.IsNote.looksOnlyAt run.token)) fun _ => ?_
    split
    · exact .pure _
    · refine .bind (.bind (.ask trivial) fun reply => ?_) fun acquired => ?_
      · split
        · exact .pure _
        · exact .pure _
      · split
        · exact .pure _
        · refine .bind (run.perform_looksOnlyAt _ _) fun performed => ?_
          refine .bind ((complete_asks _ _).mono (Request.Settles.looksOnlyAt run.token)) fun _ => ?_
          refine .bind ?_ fun _ => .pure _
          exact (run.recordResult_asks _).mono (Request.IsNote.looksOnlyAt run.token)
  · refine .bind ((cleanUp_asks _ _).mono (Request.TidiesUp.looksOnlyAt run.token)) fun _ => ?_
    exact (run.close_asks outcome).mono (Request.IsRemark.looksOnlyAt run.token)

end Run

/-! ### Steps of programs side by side -/

namespace Interleaving

variable {answer : Program.Answerer} {state : Interleaving α}

/-- Programs side by side that are about to begin. -/
def start (programs : List (Program α)) (tokens : TokenPool) : Interleaving α :=
  ⟨programs, tokens, []⟩

/-- The requests so far of the program of a number. -/
def requestsOf (state : Interleaving α) (number : Nat) : List Request :=
  (state.trace.filter (·.1 = number)).map (·.2)

/-- A program that is not there, or done, lets its turn pass; any other makes a request. -/
theorem advance_cases (answer : Program.Answerer) (state : Interleaving α) (number : Nat) :
    (state.advance answer number = state ∧
        ∀ request next, state.programs[number]? ≠ some (.step request next)) ∨
      ∃ request next, state.programs[number]? = some (.step request next) ∧
        state.advance answer number =
          { programs :=
              state.programs.set number (next (answer request state.tokens).1)
            tokens := (answer request state.tokens).2
            trace := state.trace ++ [(number, request)] } := by
  rw [advance]
  split
  · next request next found => exact .inr ⟨request, next, found, rfl⟩
  · next notStep => exact .inl ⟨rfl, notStep⟩

/-- No program is added and none goes away. -/
theorem length_programs_advance (number : Nat) :
    (state.advance answer number).programs.length = state.programs.length := by
  obtain ⟨same, -⟩ | ⟨request, next, -, same⟩ := advance_cases answer state number
  · rw [same]
  · rw [same]
    exact List.length_set

theorem length_programs_follow (schedule : List Nat) :
    (state.follow answer schedule).programs.length = state.programs.length := by
  induction schedule generalizing state with
  | nil => rfl
  | cons number rest ih => exact ih.trans (length_programs_advance number)

theorem follow_append_singleton (schedule : List Nat) (number : Nat) :
    state.follow answer (schedule ++ [number]) =
      (state.follow answer schedule).advance answer number :=
  List.foldl_append

/-- What is `left` of a program that looks at one token would end alone, from here on, as the
program does alone from the start, after as many requests as it has had turns for. -/
structure Continues (answer : Program.Answerer) (state : Interleaving α) (number token turns : Nat)
    (alone : Program.Execution α) (left : Program α) : Prop where
  present : state.programs[number]? = some left
  looks : left.Asks (Request.LooksOnlyAt token)
  value : (left.exec answer state.tokens).value = alone.value
  trace : state.requestsOf number ++ (left.exec answer state.tokens).trace = alone.trace
  kept : (state.requestsOf number).length = min turns alone.trace.length

namespace Continues

variable {number token turns : Nat} {alone : Program.Execution α} {left : Program α}

/-- A program is done when it has had turns for all its requests, and not before. -/
theorem value? (continues : state.Continues answer number token turns alone left) :
    state.values[number]? =
      some (if alone.trace.length ≤ turns then some alone.value else none) := by
  have whole := congrArg List.length continues.trace
  rw [List.length_append, continues.kept] at whole
  rw [values, List.getElem?_map, continues.present, Option.map_some]
  cases left with
  | done value =>
      have same : value = alone.value := continues.value
      have finished : alone.trace.length ≤ turns := by
        simp only [Program.exec, List.length_nil] at whole
        omega
      rw [if_pos finished, Program.value?, same]
  | step request next =>
      have more : ¬ alone.trace.length ≤ turns := by
        simp only [Program.exec, List.length_cons] at whole
        omega
      rw [if_neg more, Program.value?]

/-- Its requests so far are the first that it makes alone. -/
theorem requestsOf_eq (continues : state.Continues answer number token turns alone left) :
    state.requestsOf number = alone.trace.take turns := by
  have kept := continues.kept
  rw [← continues.trace] at kept ⊢
  rw [List.length_append] at kept
  obtain rest | early : (left.exec answer state.tokens).trace = [] ∨
      turns ≤ (state.requestsOf number).length := by
    cases remains : (left.exec answer state.tokens).trace with
    | nil => exact .inl rfl
    | cons request requests =>
        rw [remains, List.length_cons] at kept
        exact .inr (by omega)
  · rw [rest] at kept ⊢
    rw [List.append_nil, List.take_of_length_le (by simp at kept; omega)]
  · rw [List.take_append_of_le_length early, List.take_of_length_le (by omega)]

/-- **A turn of its own** takes a program one request further. -/
theorem advance_self (continues : state.Continues answer number token turns alone left) :
    ∃ left, (state.advance answer number).Continues answer number token (turns + 1) alone left := by
  obtain ⟨present, looks, value, trace, kept⟩ := continues
  obtain ⟨same, notStep⟩ | ⟨request, next, found, same⟩ := advance_cases answer state number
  · -- nothing is left to be done, so no request is missing
    cases left with
    | step request next => exact absurd present (notStep request next)
    | done result =>
        have whole := congrArg List.length trace
        simp only [Program.exec, List.append_nil] at whole
        rw [same]
        exact ⟨_, present, looks, value, trace, by omega⟩
  · obtain rfl : left = .step request next := Option.some.inj (present.symm.trans found)
    have requests : (state.advance answer number).requestsOf number =
        state.requestsOf number ++ [request] := by
      rw [same, requestsOf, List.filter_append, List.map_append]
      simp [requestsOf]
    have whole := congrArg List.length trace
    simp only [Program.exec, List.length_append, List.length_cons] at whole
    refine ⟨next (answer request state.tokens).1, ?_, looks.2 _, ?_, ?_, ?_⟩
    · rw [same]
      exact List.getElem?_set_self (List.getElem?_eq_some_iff.mp found).1
    · rw [same]
      exact value
    · rw [requests, same, List.append_assoc]
      exact trace
    · rw [requests, List.length_append, List.length_singleton]
      omega

/-- **A turn of another program** does not matter to a program whose token it leaves alone. -/
theorem advance_other {around : Surroundings} {other : Nat} (differ : other ≠ number)
    (continues : state.Continues around.answer number token turns alone left)
    (agree : (state.advance around.answer other).tokens.AgreeAt token state.tokens) :
    (state.advance around.answer other).Continues around.answer number token turns alone left := by
  obtain ⟨present, looks, value, trace, kept⟩ := continues
  obtain ⟨sameValue, sameTrace⟩ := Program.exec_agreeAt around looks agree
  have requests : (state.advance around.answer other).requestsOf number =
      state.requestsOf number := by
    obtain ⟨same, -⟩ | ⟨request, next, -, same⟩ := advance_cases around.answer state other
    · rw [same]
    · rw [same, requestsOf, List.filter_append, List.map_append]
      simp [requestsOf, differ]
  refine ⟨?_, looks, sameValue.trans value, ?_, ?_⟩
  · obtain ⟨same, -⟩ | ⟨request, next, -, same⟩ := advance_cases around.answer state other
    · rw [same, present]
    · rw [same]
      exact (List.getElem?_set_ne differ).trans present
  · rw [requests, sameTrace, trace]
  · rw [requests, kept]

/-- **A whole schedule**: a program goes on as if it were alone, as long as its token stays what it
was at the beginning. -/
theorem follow {around : Surroundings} {programs : List (Program α)} {program : Program α}
    {tokens : TokenPool} (present : programs[number]? = some program)
    (looks : program.Asks (Request.LooksOnlyAt token)) (schedule : List Nat)
    (steady : ∀ past, past <+: schedule →
      ((start programs tokens).follow around.answer past).tokens.get token = tokens.get token) :
    ∃ left, ((start programs tokens).follow around.answer schedule).Continues around.answer number
      token (schedule.count number) (program.exec around.answer tokens) left := by
  induction schedule using List.reverseRecOn with
  | nil => exact ⟨program, present, looks, rfl, rfl, by simp [start, requestsOf, Interleaving.follow]⟩
  | append_singleton schedule other ih =>
      obtain ⟨left, continues⟩ := ih fun past before =>
        steady past (before.trans (List.prefix_append _ _))
      rw [follow_append_singleton, List.count_append, List.count_singleton]
      by_cases same : other = number
      · subst same
        rw [if_pos BEq.rfl]
        exact continues.advance_self
      · rw [if_neg (by simpa using same), Nat.add_zero]
        refine ⟨left, continues.advance_other same (.of_get_eq ?_ ?_)⟩
        · obtain ⟨still, -⟩ | ⟨request, next, -, moved⟩ := advance_cases around.answer
            ((start programs tokens).follow around.answer schedule) other
          · rw [still]
          · rw [moved]
            exact around.length_answer request _
        · rw [← follow_append_singleton, steady _ (List.prefix_refl _),
            steady _ (List.prefix_append _ _)]

end Continues

/-! ### What all programs have asked -/

/-- Steps with numbers below a count are those of each number, put together. -/
theorem steps_perm {β : Type} {count : Nat} {steps : List (Nat × β)}
    (numbered : ∀ step ∈ steps, step.1 < count) :
    (steps.map (·.2)).Perm
      ((List.range count).flatMap fun number => (steps.filter (·.1 = number)).map (·.2)) := by
  induction count generalizing steps with
  | zero =>
      cases steps with
      | nil => exact .refl _
      | cons step rest => exact absurd (numbered step List.mem_cons_self) (Nat.not_lt_zero _)
  | succ count ih =>
      have below : ∀ step ∈ steps.filter (·.1 ≠ count), step.1 < count := by
        intro step mem
        obtain ⟨mem, differ⟩ := List.mem_filter.mp mem
        have := numbered step mem
        have : step.1 ≠ count := by simpa using differ
        omega
      have sameBelow : ∀ number ∈ List.range count,
          ((steps.filter (·.1 ≠ count)).filter (·.1 = number)).map (·.2) =
            (steps.filter (·.1 = number)).map (·.2) := by
        intro number mem
        have differ : number ≠ count := Nat.ne_of_lt (List.mem_range.mp mem)
        rw [List.filter_filter]
        congr 1
        refine List.filter_congr fun step _ => ?_
        by_cases own : step.1 = number <;> simp [own, differ]
      have parted := List.filter_append_perm (fun step : Nat × β => step.1 ≠ count) steps
      rw [List.range_succ, List.flatMap_append, List.flatMap_singleton,
        ← List.flatMap_congr sameBelow]
      refine (parted.map (·.2)).symm.trans ?_
      rw [List.map_append]
      refine (ih below).append ?_
      rw [List.filter_congr (q := fun step => step.1 = count) fun step _ => by simp]

theorem trace_numbered_follow (schedule : List Nat)
    (numbered : ∀ step ∈ state.trace, step.1 < state.programs.length) :
    ∀ step ∈ (state.follow answer schedule).trace, step.1 < state.programs.length := by
  induction schedule generalizing state with
  | nil => exact numbered
  | cons number rest ih =>
      have kept : (state.advance answer number).programs.length = state.programs.length :=
        length_programs_advance number
      rw [← kept]
      refine ih fun step mem => ?_
      rw [kept]
      obtain ⟨same, -⟩ | ⟨request, next, found, same⟩ := advance_cases answer state number
      · rw [same] at mem
        exact numbered step mem
      · rw [same] at mem
        rcases List.mem_append.mp mem with before | here
        · exact numbered step before
        · rw [List.mem_singleton.mp here]
          exact (List.getElem?_eq_some_iff.mp found).1

/-- **All requests** are those of each program, put together. -/
theorem requests_perm (programs : List (Program α)) (answer : Program.Answerer)
    (tokens : TokenPool) (schedule : List Nat) :
    let state := (start programs tokens).follow answer schedule
    state.requests.Perm ((List.range programs.length).flatMap state.requestsOf) := by
  have nothing : ∀ step ∈ (start programs tokens).trace,
      step.1 < (start programs tokens).programs.length := by
    intro step mem
    cases mem
  exact steps_perm (trace_numbered_follow schedule nothing)

end Interleaving

/-! ### Records -/

namespace ConnectionLog

/-- The counters of a record. -/
def counters : List (ConnectionLog → Nat) :=
  [acquires, releases, commits, rollbacks, autoCommitOff]

/-- One more call adds to each counter what it counts by itself. -/
theorem counter_record {counter : ConnectionLog → Nat} (mem : counter ∈ counters)
    (log : ConnectionLog) (call : ConnectionCall) :
    counter (log.record call) = counter log + counter (ofCalls [call]) := by
  simp only [counters, List.mem_cons, List.not_mem_nil, or_false] at mem
  rcases mem with rfl | rfl | rfl | rfl | rfl <;> rcases call with _ | ⟨_ | _⟩ | _ | _ | _ <;> rfl

/-- **A counter of a record** is the sum of what its calls count one by one. -/
theorem counter_ofCalls {counter : ConnectionLog → Nat} (mem : counter ∈ counters)
    (calls : List ConnectionCall) :
    counter (ofCalls calls) = (calls.map fun call => counter (ofCalls [call])).sum := by
  induction calls using List.reverseRecOn with
  | nil =>
      simp only [counters, List.mem_cons, List.not_mem_nil, or_false] at mem
      rcases mem with rfl | rfl | rfl | rfl | rfl <;> rfl
  | append_singleton calls call ih =>
      rw [ofCalls, List.foldl_append, List.foldl_cons, List.foldl_nil, counter_record mem,
        ← ofCalls, ih, List.map_append, List.sum_append, List.map_singleton, List.sum_singleton]

/-- A counter does not care for the order of the calls. -/
theorem counter_perm {counter : ConnectionLog → Nat} (mem : counter ∈ counters)
    {first second : List ConnectionCall} (perm : first.Perm second) :
    counter (ofCalls first) = counter (ofCalls second) := by
  rw [counter_ofCalls mem, counter_ofCalls mem]
  exact (perm.map _).sum_nat

/-- A counter of calls put together is the sum of what it counts of each part. -/
theorem counter_flatMap {β : Type} {counter : ConnectionLog → Nat} (mem : counter ∈ counters)
    (parts : List β) (calls : β → List ConnectionCall) :
    counter (ofCalls (parts.flatMap calls)) =
      (parts.map fun part => counter (ofCalls (calls part))).sum := by
  rw [counter_ofCalls mem, List.map_flatMap, List.flatMap_def, List.sum_flatten, List.map_map]
  exact congrArg List.sum (List.map_congr_left fun part _ => (counter_ofCalls mem _).symm)

end ConnectionLog

/-- The identities of the stages that have cleaned up, by their positions. -/
theorem StageTally.cleanupsOf_afterRuns (pipeline : Pipeline) (trace : List Request)
    (identity : Nat) :
    (afterRuns {} pipeline trace).cleanupsOf identity =
      ((cleanUpsOf trace).filterMap pipeline.identityAt?).count identity := by
  rw [cleanUpsOf, List.filterMap_filterMap]
  rfl

/-- The identities at all positions of a pipeline. -/
theorem Pipeline.filterMap_identityAt? (pipeline : Pipeline) :
    (List.range pipeline.stages.length).filterMap pipeline.identityAt? =
      pipeline.stages.map (·.stage.identity) := by
  unfold identityAt?
  induction pipeline.stages using List.reverseRecOn with
  | nil => rfl
  | append_singleton stages bound ih =>
      rw [List.length_append, List.length_singleton, List.range_succ, List.filterMap_append,
        List.map_append, ← ih]
      congr 1
      · refine List.filterMap_congr fun position mem => ?_
        rw [List.getElem?_append_left (List.mem_range.mp mem)]
      · simp

/-- A run asks every stage to clean up, in order. -/
theorem Run.cleanUpsOf_program (run : Run) (around : Surroundings) (tokens : TokenPool) :
    cleanUpsOf (run.program.exec around.answer tokens).trace =
      List.range run.pipeline.stages.length := by
  obtain ⟨-, before, after, trace, none, -, -, all⟩ := run.program_stages around tokens
  rw [trace, cleanUpsOf_append, none, all, List.nil_append]

/-- What is the same for each item and its number is the same for all items and all numbers. -/
theorem map_range_eq_map {β γ : Type} {items : List β} {numbered : Nat → γ} {plain : β → γ}
    (same : ∀ number item, items[number]? = some item → numbered number = plain item) :
    (List.range items.length).map numbered = items.map plain := by
  refine List.ext_getElem (by simp) fun number _ within => ?_
  rw [List.getElem_map, List.getElem_map, List.getElem_range]
  exact same number _ (List.getElem?_eq_getElem _)

/-- A number for each item of a kind, and nothing for the others. -/
theorem sum_map_ite {β : Type} (items : List β) (kind : β → Bool) (each : Nat) :
    (items.map fun item => if kind item then each else 0).sum = items.countP kind * each := by
  induction items with
  | nil => simp
  | cons item rest ih =>
      rw [List.map_cons, List.sum_cons, ih, List.countP_cons, Nat.add_mul]
      cases kind item <;> simp [Nat.add_comm]

namespace Interleaving

variable {around : Surroundings} {runs : List Run} {tokens : TokenPool} {schedule : List Nat}

/-- Whoever of a few runs takes the next step, the token of each stays what it was. -/
def IsSteady (around : Surroundings) (runs : List Run) (tokens : TokenPool)
    (schedule : List Nat) : Prop :=
  ∀ past, past <+: schedule → ∀ run ∈ runs,
    ((start (runs.map Run.program) tokens).follow around.answer past).tokens.get run.token =
      tokens.get run.token

/-- A run among others goes on as if it were alone. -/
theorem IsSteady.continues (steady : IsSteady around runs tokens schedule) {number : Nat}
    {run : Run} (found : runs[number]? = some run) :
    ∃ left, ((start (runs.map Run.program) tokens).follow around.answer schedule).Continues
      around.answer number run.token (schedule.count number)
      (run.program.exec around.answer tokens) left := by
  refine Continues.follow ?_ run.program_looksOnlyAt schedule fun past before =>
    steady past before run (List.mem_of_getElem? found)
  rw [List.getElem?_map, found, Option.map_some]

/-- Where no stage cancels anything, every token stays what it was. -/
theorem isSteady_of_quiet
    (quiet : ∀ position call, (around.operate position call).cancelling = []) :
    IsSteady around runs tokens schedule := by
  have still : ∀ request pool, (around.answer request pool).2 = pool := by
    intro request pool
    cases request with
    | operate position call =>
        rw [Surroundings.answer, quiet]
        rfl
    | _ => rfl
  have kept : ∀ past (state : Interleaving (Except RunFailure RunOutput)),
      (state.follow around.answer past).tokens = state.tokens := by
    intro past
    induction past with
    | nil => exact fun state => rfl
    | cons number rest ih =>
        intro state
        refine (ih _).trans ?_
        obtain ⟨same, -⟩ | ⟨request, next, -, same⟩ := advance_cases around.answer state number
        · rw [same]
        · rw [same]
          exact still request _
  intro past _ run _
  rw [kept]
  rfl

/-- As many values are there as there are programs. -/
theorem length_values_follow (programs : List (Program α)) (answer : Program.Answerer)
    (tokens : TokenPool) (schedule : List Nat) :
    ((start programs tokens).follow answer schedule).values.length = programs.length := by
  rw [values, List.length_map, length_programs_follow]
  rfl

/-- A counter of all the requests is the sum of the counters of the runs. -/
theorem counter_requests {counter : ConnectionLog → Nat} (mem : counter ∈ ConnectionLog.counters)
    (programs : List (Program α)) (answer : Program.Answerer) (tokens : TokenPool)
    (schedule : List Nat) :
    let state := (start programs tokens).follow answer schedule
    counter (.ofTrace state.requests) =
      ((List.range programs.length).map fun number =>
        counter (.ofTrace (state.requestsOf number))).sum := by
  intro state
  have perm := (requests_perm programs answer tokens schedule).filterMap Request.connectionCall?
  rw [List.filterMap_flatMap] at perm
  exact (ConnectionLog.counter_perm mem perm).trans (ConnectionLog.counter_flatMap mem _ _)

/-- How often a stage has cleaned up in all, run by run. -/
theorem cleanupsOf_requests (pipeline : Pipeline) (identity : Nat) (programs : List (Program α))
    (answer : Program.Answerer) (tokens : TokenPool) (schedule : List Nat) :
    let state := (start programs tokens).follow answer schedule
    (StageTally.afterRuns {} pipeline state.requests).cleanupsOf identity =
      ((List.range programs.length).map fun number =>
        (StageTally.afterRuns {} pipeline (state.requestsOf number)).cleanupsOf identity).sum := by
  intro state
  have perm := requests_perm programs answer tokens schedule
  simp only [StageTally.cleanupsOf_afterRuns, cleanUpsOf, List.filterMap_filterMap]
  rw [(perm.filterMap _).count_eq, List.filterMap_flatMap, List.count_flatMap]
  rfl

end Interleaving

/-- How often a stage cleans up in one run: once for each of its positions. -/
theorem Run.cleanupsOf_program (run : Run) (around : Surroundings) (tokens : TokenPool)
    (identity : Nat) :
    (StageTally.afterRuns {} run.pipeline
      (run.program.exec around.answer tokens).trace).cleanupsOf identity =
        (run.pipeline.stages.map (·.stage.identity)).count identity := by
  rw [StageTally.cleanupsOf_afterRuns, run.cleanUpsOf_program, run.pipeline.filterMap_identityAt?]

/-- **Runs side by side** do as each does alone. Whoever takes the next step, the requests of a run
are the first that it makes alone, as many as it had turns for, and once it has made them all it has
the value that it has alone. When all runs are done, each counter of the connections is the sum of
what the runs count alone; and as long as no run is left in the middle of cleaning up, a stage has
cleaned up once for each of its positions in each run that is done. -/
theorem Run.side_by_side (pipeline : Pipeline) (around : Surroundings) (runs : List Run)
    (tokens : TokenPool) (schedule : List Nat) (shared : ∀ run ∈ runs, run.pipeline = pipeline)
    (steady : Interleaving.IsSteady around runs tokens schedule) :
    let state := (Interleaving.start (runs.map Run.program) tokens).follow around.answer schedule
    let alone (run : Run) := run.program.exec around.answer tokens
    (∀ number run, runs[number]? = some run →
      state.requestsOf number = (alone run).trace.take (schedule.count number) ∧
        state.values[number]? =
          some (if (alone run).trace.length ≤ schedule.count number then some (alone run).value
            else none)) ∧
      ((∀ value ∈ state.values, value.isSome) →
        ∀ counter ∈ ConnectionLog.counters,
          counter (.ofTrace state.requests) =
            (runs.map fun run => counter (.ofTrace (alone run).trace)).sum) ∧
      ((∀ number, state.values[number]? = some none → cleanUpsOf (state.requestsOf number) = []) →
        ∀ identity,
          (StageTally.afterRuns {} pipeline state.requests).cleanupsOf identity =
            state.values.countP Option.isSome *
              (pipeline.stages.map (·.stage.identity)).count identity) := by
  intro state alone
  have count : state.values.length = runs.length :=
    (Interleaving.length_values_follow ..).trans (List.length_map _)
  have each : ∀ number run, runs[number]? = some run →
      state.requestsOf number = (alone run).trace.take (schedule.count number) ∧
        state.values[number]? =
          some (if (alone run).trace.length ≤ schedule.count number then some (alone run).value
            else none) := by
    intro number run found
    obtain ⟨left, continues⟩ := steady.continues found
    exact ⟨continues.requestsOf_eq, continues.value?⟩
  -- a run that is done has made all its requests
  have whole : ∀ number run value, runs[number]? = some run →
      state.values[number]? = some (some value) → state.requestsOf number = (alone run).trace := by
    intro number run value found done
    obtain ⟨requests, same⟩ := each number run found
    rw [same] at done
    split at done
    · next all => rw [requests, List.take_of_length_le all]
    · cases Option.some.inj done
  refine ⟨each, fun done counter mem => ?_, fun tidy identity => ?_⟩
  · rw [Interleaving.counter_requests mem, List.length_map]
    refine congrArg List.sum (map_range_eq_map fun number run found => ?_)
    have within : number < state.values.length := count ▸ (List.getElem?_eq_some_iff.mp found).1
    obtain ⟨value, same⟩ := Option.isSome_iff_exists.mp (done _ (List.getElem_mem within))
    rw [whole number run value found (List.getElem?_eq_some_iff.mpr ⟨within, same⟩)]
  · rw [Interleaving.cleanupsOf_requests, List.length_map, ← sum_map_ite, ← count]
    refine congrArg List.sum (map_range_eq_map fun number value found => ?_)
    have within : number < runs.length := count ▸ (List.getElem?_eq_some_iff.mp found).1
    have here := List.getElem?_eq_getElem within
    cases value with
    | none =>
        rw [StageTally.cleanupsOf_afterRuns, tidy number found]
        rfl
    | some value =>
        have same := shared _ (List.getElem_mem within)
        rw [whole number _ value here found, ← same, Run.cleanupsOf_program]
        rfl

/-- While one of two runs stands in front of its first stage, the other runs to its end and cleans
up. -/
theorem Run.relay_side_by_side :
    let around : Surroundings :=
      { transformer := some .tagging, stages := [.idle 0 "first", .idle 0 "second"] }
    let other : Run :=
      { relay with id := "2", mode := .call, input := .text "invoice", token := 1 }
    let tokens : TokenPool := ⟨[.untouched, .untouched]⟩
    let schedule := List.replicate 5 0 ++ List.replicate 17 1 ++ List.replicate 12 0
    let state :=
      (Interleaving.start ([relay, other].map program) tokens).follow around.answer schedule
    state.values =
        [some (.ok (.result { payload := .text "note:order" })), some (.ok (.payload .empty))] ∧
      (ConnectionLog.ofTrace state.requests).commits = 2 ∧
      (StageTally.afterRuns {} relay.pipeline state.requests).cleanupsOf 0 = 4 := by
  intro around other tokens schedule
  have quiet : ∀ position call, (around.operate position call).cancelling = [] := by
    rintro (_ | _ | position) call <;> rfl
  have facts := side_by_side relay.pipeline around [relay, other] tokens schedule
    (by simp [other]) (Interleaving.isSteady_of_quiet quiet)
  have two : ((Interleaving.start ([relay, other].map program) tokens).follow around.answer
    schedule).values.length = 2 := Interleaving.length_values_follow ..
  have first : (relay.program.exec around.answer tokens).trace.length = 17 := rfl
  have second : (other.program.exec around.answer tokens).trace.length = 17 := rfl
  have turns : schedule.count 0 = 17 ∧ schedule.count 1 = 17 := by decide
  revert facts two
  generalize (Interleaving.start ([relay, other].map program) tokens).follow around.answer
    schedule = state
  intro ⟨each, counters, cleanUps⟩ two
  have here := (each 0 relay rfl).2
  have there := (each 1 other rfl).2
  rw [turns.1, if_pos (Nat.le_of_eq first)] at here
  rw [turns.2, if_pos (Nat.le_of_eq second)] at there
  obtain ⟨one, another, values⟩ := List.length_eq_two.mp two
  rw [values] at here there
  obtain rfl := Option.some.inj here
  obtain rfl := Option.some.inj there
  have done : ∀ value ∈ state.values, value.isSome := by simp [values]
  have tidy : ∀ number, state.values[number]? = some none →
      cleanUpsOf (state.requestsOf number) = [] := by
    intro number unfinished
    have := done _ (List.mem_of_getElem? unfinished)
    cases this
  have commits : (ConnectionLog.ofTrace state.requests).commits = 2 := by
    rw [counters done ConnectionLog.commits (.tail _ (.tail _ (.head _)))]
    decide +kernel
  have cleaned : (StageTally.afterRuns {} relay.pipeline state.requests).cleanupsOf 0 = 4 := by
    rw [cleanUps tidy 0, values]
    decide +kernel
  exact ⟨values.trans rfl, commits, cleaned⟩

end DocPipeline
