import DocPipeline.Proofs.Variables.Resolution
import Mathlib

/-!
# Resolved variables as a bounded fixed point

Values change in the middle of a pass, so that a value is expanded in the light of variables that
the same pass may change later on. Nevertheless a pass that records no change has seen the same
variables throughout, and this is all that it takes for them to be settled. It holds for any way to
expand values, also for one that makes them grow.

## Main results

* `Variables.code_of_resolve_error`: all that can go wrong goes by one code.
* `Variables.exists_passes_of_settle`: what is resolved comes of a number of passes.
* `Variables.forRun_settles`: what the variables of a run come to.
-/

namespace DocPipeline.Variables

variable {expander : Expander} {vars : Variables}

/-- The passes end with what a number of them makes of the variables, the last one changing
nothing. -/
theorem exists_passes_of_settle {passes : Nat} {changing : List String} {resolved : Variables}
    (ends : settle expander passes changing vars = .ok resolved) :
    ∃ count < passes, resolved = (afterPass expander)^[count] vars := by
  induction passes generalizing changing vars with
  | zero => cases ends
  | succ passes ih =>
      rcases settle_succ expander passes changing vars with
        ⟨name, -, overflows⟩ | ⟨-, stops⟩ | ⟨-, changed, onward⟩
      · rw [overflows] at ends
        cases ends
      · rw [stops] at ends
        exact ⟨0, Nat.succ_pos passes, (Except.ok.inj ends).symm⟩
      · rw [onward] at ends
        obtain ⟨count, fewer, same⟩ := ih ends
        exact ⟨count + 1, Nat.succ_lt_succ fewer, same⟩

/-- The passes fail because a value grows too large or because they are too few. -/
theorem code_of_settle_error {passes : Nat} {changing : List String} {error : ConfigurationError}
    (fails : settle expander passes changing vars = .error error) :
    error.code = some "CONFIG-VARIABLE-CYCLE" := by
  induction passes generalizing changing vars with
  | zero =>
      obtain rfl := Except.error.inj fails
      rfl
  | succ passes ih =>
      rcases settle_succ expander passes changing vars with
        ⟨name, -, overflows⟩ | ⟨-, stops⟩ | ⟨-, changed, onward⟩
      · rw [overflows] at fails
        obtain rfl := Except.error.inj fails
        rfl
      · rw [stops] at fails
        cases fails
      · rw [onward] at fails
        exact ih fails

/-- **All failures to resolve variables go by one code**: a cycle, a value that grows too large, and
too few passes. -/
theorem code_of_resolve_error {error : ConfigurationError}
    (fails : resolve expander vars = .error error) :
    error.code = some "CONFIG-VARIABLE-CYCLE" := by
  rw [resolve] at fails
  split at fails
  · obtain rfl := Except.error.inj fails
    rfl
  · exact code_of_settle_error fails

/-- **What the variables of a run come to**, however values are expanded. If they are resolved, then
they have the names of the configured ones and of those of the caller; each value expands to itself
and is small enough; and they come of fewer passes than are allowed. Otherwise the failure goes by
the code of cycles. Where they are not to be resolved, they are the configured ones with those of
the caller laid over them. -/
theorem forRun_settles (expander : Expander) (configured params : Variables) :
    (match forRun expander true configured params with
      | .ok resolved =>
        (∀ name, name ∈ resolved.names ↔ name ∈ configured.names ∨ name ∈ params.names) ∧
          (∀ name value, resolved.get? name = some value →
            expander.expand value resolved = value ∧ value.utf8ByteSize ≤ 1048576) ∧
          ∃ passes < 16,
            resolved = (afterPass expander)^[passes] (configured.overlay params)
      | .error error => error.code = some "CONFIG-VARIABLE-CYCLE") ∧
    ∃ overlaid, forRun expander false configured params = .ok overlaid ∧
      ∀ name, overlaid.get? name = (params.get? name).or (configured.get? name) := by
  constructor
  · cases result : forRun expander true configured params with
    | error error => exact code_of_resolve_error result
    | ok resolved =>
        obtain ⟨settled, names⟩ := settled_of_forRun result
        refine ⟨fun name => by rw [names, NameMap.mem_names_overlay], settled, ?_⟩
        have ends : resolve expander (configured.overlay params) = .ok resolved := result
        rw [resolve] at ends
        split at ends
        · cases ends
        · exact exists_passes_of_settle ends
  · exact ⟨_, rfl, NameMap.get?_overlay configured params⟩

/-- A configured value that names another one, which the caller gives. -/
theorem forRun_settles_pair :
    let configured : Variables := .ofList [("a", "$\x7bb\x7d!"), ("b", "x")]
    let params : Variables := .ofList [("b", "y")]
    let resolved : Variables := .ofList [("a", "y!"), ("b", "y")]
    forRun .placeholders true configured params = .ok resolved ∧
      Placeholder.expand "y!" resolved = "y!" ∧
      ∃ overlaid, forRun .placeholders false configured params = .ok overlaid ∧
        overlaid.get? "a" = some "$\x7bb\x7d!" ∧ overlaid.get? "b" = some "y" := by
  intro configured params resolved
  obtain ⟨resolves, overlaid, same, found⟩ := forRun_settles .placeholders configured params
  have ends : forRun .placeholders true configured params = .ok resolved := by cbv
  rw [ends] at resolves
  have fixed := (resolves.2.1 "a" "y!" rfl).1
  exact ⟨ends, fixed, overlaid, same, (found "a").trans rfl, (found "b").trans rfl⟩

end DocPipeline.Variables
