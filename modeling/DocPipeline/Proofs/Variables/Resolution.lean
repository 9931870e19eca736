import DocPipeline.Proofs.Variables.Cycle
import DocPipeline.Proofs.Variables.Placeholder
import DocPipeline.Variables.Resolution

/-!
# Resolved variables

What a pass over the variables does, for any expander: it expands one value after the other unless
one grows too large, and if it changes nothing then all values are settled. What resolving gives is
settled, and settled variables are resolved to themselves, unless they are refused for a cycle.

## Main definitions

* `Variables.expandNext`, `Variables.afterPass`: expanding regardless of size.
* `Variables.Overflows`: a value grows too large during a pass.
* `Variables.Settled`: all values expand to themselves and are small enough.

## Main results

* `Variables.expandAll_spec`: what a pass comes to.
* `Variables.settled_of_forRun`: resolved variables are settled.
* `Variables.resolve_of_settled`: resolving settled variables.
-/

namespace DocPipeline.Variables

variable {expander : Expander} {vars : Variables} {name : String} {names : List String}

/-! ### Passes -/

/-- The variables after the value of one of them was expanded, however large it grows. -/
def expandNext (expander : Expander) (vars : Variables) (name : String) : Variables :=
  vars.insert name (expander.expand ((vars.get? name).getD "") vars)

/-- The variables after a whole pass, however large the values grow. -/
def afterPass (expander : Expander) (vars : Variables) : Variables :=
  vars.names.foldl (expandNext expander) vars

/-- Expanding the values of some names in order, that of `name` grows too large. -/
def Overflows (expander : Expander) (vars : Variables) (names : List String) (name : String) :
    Prop :=
  ∃ before after, names = before ++ name :: after ∧
    let now := before.foldl (expandNext expander) vars
    maxValueSize < (expander.expand ((now.get? name).getD "") now).utf8ByteSize

/-- All values expand to themselves. -/
def Fixed (expander : Expander) (vars : Variables) : Prop :=
  ∀ name value, vars.get? name = some value → expander.expand value vars = value

/-- A value expands to itself and is small enough. -/
def IsSettled (expander : Expander) (vars : Variables) (value : String) : Prop :=
  expander.expand value vars = value ∧ value.utf8ByteSize ≤ maxValueSize

/-- All values expand to themselves and are small enough. -/
def Settled (expander : Expander) (vars : Variables) : Prop :=
  ∀ name value, vars.get? name = some value → IsSettled expander vars value

theorem names_expandNext (mem : name ∈ vars.names) :
    (expandNext expander vars name).names = vars.names :=
  NameMap.names_insert mem _

theorem names_foldl_expandNext (known : names ⊆ vars.names) :
    (names.foldl (expandNext expander) vars).names = vars.names := by
  induction names generalizing vars with
  | nil => rfl
  | cons name rest ih =>
      obtain ⟨mem, known⟩ := List.cons_subset.mp known
      have same : (expandNext expander vars name).names = vars.names := names_expandNext mem
      rw [List.foldl_cons, ih (by rw [same]; exact known), same]

theorem names_afterPass : (afterPass expander vars).names = vars.names :=
  names_foldl_expandNext (List.Subset.refl _)

/-- **Expanding one value**: it is too large, or it is settled and nothing changes, or the variables
have it then and its name is put on record. -/
theorem expandOne_cases (expander : Expander) (pass : Pass) (mem : name ∈ pass.vars.names) :
    (maxValueSize <
        (expander.expand ((pass.vars.get? name).getD "") pass.vars).utf8ByteSize ∧
      expandOne expander pass name = .error (.variableOverflow name maxValueSize)) ∨
    (∃ value, pass.vars.get? name = some value ∧ IsSettled expander pass.vars value ∧
      expandNext expander pass.vars name = pass.vars ∧
      expandOne expander pass name = .ok pass) ∨
    expandOne expander pass name =
      .ok ⟨expandNext expander pass.vars name, name :: pass.changed⟩ := by
  obtain ⟨value, found⟩ := NameMap.exists_get?_of_mem_names mem
  simp only [expandOne, expandNext, found, Option.getD_some]
  by_cases large : maxValueSize < (expander.expand value pass.vars).utf8ByteSize
  · exact .inl ⟨large, if_pos large⟩
  by_cases same : expander.expand value pass.vars = value
  · rw [same] at large ⊢
    refine .inr (.inl ⟨value, rfl, ⟨same, Nat.le_of_not_lt large⟩, ?_, ?_⟩)
    · exact NameMap.insert_of_get? found
    · exact (if_neg large).trans (if_pos rfl)
  · exact .inr (.inr ((if_neg large).trans (if_neg same)))

/-- What expanding the values of some names comes to. -/
def Passed (expander : Expander) (pass : Pass) (names : List String) :
    Except ConfigurationError Pass → Prop
  | .error error => ∃ name, error = .variableOverflow name maxValueSize ∧
      Overflows expander pass.vars names name
  | .ok after => after.vars = names.foldl (expandNext expander) pass.vars ∧
      (after.changed = [] → pass.changed = [] ∧ after.vars = pass.vars ∧
        ∀ name ∈ names, ∃ value, pass.vars.get? name = some value ∧
          IsSettled expander pass.vars value)

/-- A settled value in front makes no difference. -/
theorem Passed.cons_of_settled {pass : Pass} {result : Except ConfigurationError Pass}
    (passed : Passed expander pass names result) {value : String}
    (found : pass.vars.get? name = some value) (settled : IsSettled expander pass.vars value)
    (same : expandNext expander pass.vars name = pass.vars) :
    Passed expander pass (name :: names) result := by
  cases result with
  | error error =>
      obtain ⟨other, rfl, before, after, cut, large⟩ := passed
      refine ⟨other, rfl, name :: before, after, by rw [cut, List.cons_append], ?_⟩
      rw [List.foldl_cons, same]
      exact large
  | ok after =>
      obtain ⟨vars, unchanged⟩ := passed
      refine ⟨by rw [List.foldl_cons, same, vars], fun none => ?_⟩
      obtain ⟨nothing, still, others⟩ := unchanged none
      exact ⟨nothing, still, List.forall_mem_cons.mpr ⟨⟨value, found, settled⟩, others⟩⟩

/-- After a change that was put on record, the record is not empty any more. -/
theorem Passed.cons_of_changed {pass : Pass} {result : Except ConfigurationError Pass}
    (passed : Passed expander ⟨expandNext expander pass.vars name, name :: pass.changed⟩ names
      result) :
    Passed expander pass (name :: names) result := by
  cases result with
  | error error =>
      obtain ⟨other, rfl, before, after, cut, large⟩ := passed
      exact ⟨other, rfl, name :: before, after, by rw [cut, List.cons_append], large⟩
  | ok after =>
      obtain ⟨vars, unchanged⟩ := passed
      refine ⟨vars, fun none => ?_⟩
      have recorded := (unchanged none).1
      cases recorded

/-- **Expanding the values of some names**, one after the other. -/
theorem foldlM_expandOne (expander : Expander) (pass : Pass) (known : names ⊆ pass.vars.names) :
    Passed expander pass names (names.foldlM (expandOne expander) pass) := by
  induction names generalizing pass with
  | nil => exact ⟨rfl, fun unchanged => ⟨unchanged, rfl, nofun⟩⟩
  | cons name rest ih =>
      obtain ⟨mem, known⟩ := List.cons_subset.mp known
      rw [List.foldlM_cons]
      rcases expandOne_cases expander pass mem with
        ⟨large, step⟩ | ⟨value, found, settled, same, step⟩ | step
      · rw [step]
        exact ⟨name, rfl, [], rest, rfl, large⟩
      · rw [step]
        exact (ih pass known).cons_of_settled found settled same
      · rw [step]
        exact (ih ⟨expandNext expander pass.vars name, name :: pass.changed⟩
          (by rw [names_expandNext mem]; exact known)).cons_of_changed

/-- **What a pass comes to**: a value grows too large, or all values are expanded; if no change is on
record, then all were settled. -/
theorem expandAll_spec (expander : Expander) (vars : Variables) :
    match expandAll expander vars with
    | .error error => ∃ name, error = .variableOverflow name maxValueSize ∧
        Overflows expander vars vars.names name
    | .ok pass => pass.vars = afterPass expander vars ∧
        (pass.changed = [] → pass.vars = vars ∧ Settled expander vars) := by
  have passed := foldlM_expandOne expander ⟨vars, []⟩ (List.Subset.refl vars.names)
  rw [expandAll]
  cases result : vars.names.foldlM (expandOne expander) ⟨vars, []⟩ with
  | error error =>
      rw [result] at passed
      exact passed
  | ok pass =>
      rw [result] at passed
      obtain ⟨after, unchanged⟩ := passed
      refine ⟨after, fun none => ?_⟩
      obtain ⟨-, same, settled⟩ := unchanged none
      refine ⟨same, fun name value found => ?_⟩
      obtain ⟨own, isOwn, settled⟩ := settled name (NameMap.mem_names_of_get? found)
      obtain rfl : value = own := Option.some.inj (found.symm.trans isOwn)
      exact settled

/-- A value that expands to itself is left as it is, unless it is too large. -/
theorem expandOne_of_fixed (pass : Pass) {value : String} (found : pass.vars.get? name = some value)
    (fixed : expander.expand value pass.vars = value) :
    expandOne expander pass name =
      if maxValueSize < value.utf8ByteSize then .error (.variableOverflow name maxValueSize)
      else .ok pass := by
  simp only [expandOne, found, Option.getD_some, fixed]
  rfl

/-- A pass over values that expand to themselves records no change. -/
theorem changed_of_fixed (fixed : Fixed expander vars) {pass : Pass}
    (ends : expandAll expander vars = .ok pass) : pass.changed = [] := by
  have known : ∀ name ∈ vars.names, ∃ value, vars.get? name = some value := fun _ =>
    NameMap.exists_get?_of_mem_names
  rw [expandAll] at ends
  generalize vars.names = names at ends known
  induction names with
  | nil =>
      obtain rfl := Except.ok.inj ends
      rfl
  | cons name rest ih =>
      obtain ⟨⟨value, found⟩, known⟩ := List.forall_mem_cons.mp known
      rw [List.foldlM_cons, expandOne_of_fixed ⟨vars, []⟩ found (fixed name value found)] at ends
      split at ends
      · cases ends
      · exact ih ends known

/-- A pass over settled variables changes nothing. -/
theorem expandAll_of_settled (settled : Settled expander vars) :
    expandAll expander vars = .ok ⟨vars, []⟩ := by
  have each : ∀ name ∈ vars.names, expandOne expander ⟨vars, []⟩ name = .ok ⟨vars, []⟩ := by
    intro name mem
    obtain ⟨value, found⟩ := NameMap.exists_get?_of_mem_names mem
    obtain ⟨same, small⟩ := settled name value found
    rw [expandOne_of_fixed ⟨vars, []⟩ found same, if_neg (Nat.not_lt_of_le small)]
  rw [expandAll]
  generalize vars.names = names at each
  induction names with
  | nil => rfl
  | cons name rest ih =>
      rw [List.foldlM_cons, each name List.mem_cons_self]
      exact ih fun other mem => each other (List.mem_cons_of_mem _ mem)

/-! ### Whole resolutions -/

/-- **What one more pass comes to**: a value grows too large, or all values were settled and the passes
end, or some value was not yet fixed and the passes go on with all of them expanded. -/
theorem settle_succ (expander : Expander) (passes : Nat) (changing : List String)
    (vars : Variables) :
    (∃ name, Overflows expander vars vars.names name ∧
      settle expander (passes + 1) changing vars =
        .error (.variableOverflow name maxValueSize)) ∨
    (Settled expander vars ∧ settle expander (passes + 1) changing vars = .ok vars) ∨
    (¬Fixed expander vars ∧ ∃ changed, settle expander (passes + 1) changing vars =
      settle expander passes changed (afterPass expander vars)) := by
  have passed := expandAll_spec expander vars
  rw [settle]
  cases result : expandAll expander vars with
  | error error =>
      rw [result] at passed
      obtain ⟨name, rfl, large⟩ := passed
      exact .inl ⟨name, large, rfl⟩
  | ok pass =>
      rw [result] at passed
      obtain ⟨after, unchanged⟩ := passed
      by_cases none : pass.changed.isEmpty
      · obtain ⟨same, settled⟩ := unchanged (List.isEmpty_iff.mp none)
        refine .inr (.inl ⟨settled, ?_⟩)
        rw [← same]
        exact if_pos none
      · refine .inr (.inr ⟨fun fixed => none ?_, pass.changed.reverse, ?_⟩)
        · rw [changed_of_fixed fixed result]
          rfl
        · rw [← after]
          exact if_neg none

/-- Variables are settled once the passes end. -/
theorem settled_of_settle {passes : Nat} {changing : List String} {resolved : Variables}
    (ends : settle expander passes changing vars = .ok resolved) :
    Settled expander resolved ∧ resolved.names = vars.names := by
  induction passes generalizing changing vars with
  | zero => cases ends
  | succ passes ih =>
      rcases settle_succ expander passes changing vars with
        ⟨name, -, overflows⟩ | ⟨settled, stops⟩ | ⟨-, changed, onward⟩
      · rw [overflows] at ends
        cases ends
      · rw [stops] at ends
        obtain rfl := Except.ok.inj ends
        exact ⟨settled, rfl⟩
      · rw [onward] at ends
        obtain ⟨settled, names⟩ := ih ends
        exact ⟨settled, names.trans names_afterPass⟩

/-- **Resolved variables are settled**, for any expander. -/
theorem settled_of_forRun {configured params resolved : Variables}
    (ends : forRun expander true configured params = .ok resolved) :
    Settled expander resolved ∧ resolved.names = (configured.overlay params).names := by
  rw [forRun, if_pos rfl, resolve] at ends
  split at ends
  · cases ends
  · exact settled_of_settle ends

/-- **Resolving settled variables** leaves them as they are, unless there is a cycle among them. -/
theorem resolve_of_settled (settled : Settled expander vars) :
    resolve expander vars =
      match expander.findCycle vars with
      | some cycle => .error (.variableCycle cycle)
      | none => .ok vars := by
  rw [resolve]
  cases expander.findCycle vars with
  | some cycle => rfl
  | none =>
      have ends : settle expander maxPasses [] vars = .ok vars := by
        rw [maxPasses, settle, expandAll_of_settled settled]
        rfl
      exact ends

end DocPipeline.Variables
