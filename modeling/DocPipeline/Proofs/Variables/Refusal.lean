import DocPipeline.Proofs.Variables.Cycle
import DocPipeline.Variables.Resolution
import Mathlib

/-!
# Circles of references are refused

The variables of a map and the references among them form a directed graph. A circle is found exactly
if the graph has one, and what is found is a circle: a closed way along references that passes no
variable twice. Where there is one, variables are refused before a single value is expanded, so that
it makes no difference what expanding does.

## Main results

* `Expander.isCircle_of_findCycle`: what is found is a circle.
* `Variables.forRun_of_findCycle`: variables with a circle are refused, however values are expanded.
* `Variables.circles_are_refused`: the search for a circle, and what becomes of variables with one.
-/

namespace DocPipeline

namespace Expander

variable {expander : Expander} {vars : Variables}

/-- **What is found is a circle** along the references among the variables. -/
theorem isCircle_of_findCycle {circle : List String}
    (found : expander.findCycle vars = some circle) :
    2 ≤ circle.length ∧ circle.head? = circle.getLast? ∧
      circle.IsChain (expander.Refers vars) ∧ circle.dropLast.Nodup := by
  have answer := expander.findCycle_spec vars
  rw [found] at answer
  obtain ⟨two, closed, linked, nodup⟩ := answer
  rw [leads_successors] at linked
  exact ⟨two, closed, linked, nodup⟩

/-- A way back from a variable to itself makes for a circle that is found. -/
theorem exists_findCycle_of_transGen {name : String}
    (back : Relation.TransGen (expander.Refers vars) name name) :
    ∃ circle, expander.findCycle vars = some circle := by
  refine Option.ne_none_iff_exists'.mp fun none => ?_
  exact findCycle_eq_none_iff.mp none name back

/-- The search looks at what values refer to, and not at what expanding makes of them. -/
theorem findCycle_congr (expand : String → Variables → String) :
    findCycle ⟨expand, expander.references⟩ vars = expander.findCycle vars := rfl

end Expander

namespace Variables

/-- **Variables with a circle are refused, however values are expanded.** -/
theorem forRun_of_findCycle {expander : Expander} {configured params : Variables}
    {circle : List String}
    (found : expander.findCycle (configured.overlay params) = some circle)
    (expand : String → Variables → String) :
    forRun ⟨expand, expander.references⟩ true configured params =
      .error (.variableCycle circle) := by
  rw [forRun, if_pos rfl, resolve, Expander.findCycle_congr, found]

/-- **The search for a circle is right, and circles are refused.** For any variables and whatever
their values refer to, no circle is found exactly if no variable leads back to itself along
references to known variables. What is found starts and ends with one name, goes along references,
and passes no name twice. If the variables of a run are to be resolved and one of them leads back to
itself, they are refused for the circle that is found, by the code of cycles, whatever function is
there to expand the values. -/
theorem circles_are_refused (expander : Expander) :
    (∀ vars : Variables, expander.findCycle vars = none ↔
        ∀ name, ¬Relation.TransGen (expander.Refers vars) name name) ∧
      (∀ (vars : Variables) (circle : List String), expander.findCycle vars = some circle →
        2 ≤ circle.length ∧ circle.head? = circle.getLast? ∧
          circle.IsChain (expander.Refers vars) ∧ circle.dropLast.Nodup) ∧
      ∀ (configured params : Variables) (name : String),
        Relation.TransGen (expander.Refers (configured.overlay params)) name name →
        ∃ circle, expander.findCycle (configured.overlay params) = some circle ∧
          (ConfigurationError.variableCycle circle).code = some "CONFIG-VARIABLE-CYCLE" ∧
          ∀ expand : String → Variables → String,
            forRun ⟨expand, expander.references⟩ true configured params =
              .error (.variableCycle circle) := by
  refine ⟨fun vars => Expander.findCycle_eq_none_iff, fun vars circle found =>
    Expander.isCircle_of_findCycle found, fun configured params name back => ?_⟩
  obtain ⟨circle, found⟩ := Expander.exists_findCycle_of_transGen back
  exact ⟨circle, found, rfl, forRun_of_findCycle found⟩

/-- A variable of the caller closes a circle that the configured ones do not have, and that only the
search from the second of them comes to. -/
theorem circle_of_caller_is_refused :
    let configured : Variables := .ofList [("a", "x"), ("b", "$\x7bc\x7d$\x7ba\x7d")]
    let params : Variables := .single "c" "$\x7bb\x7d"
    (∃ circle, Expander.placeholders.findCycle (configured.overlay params) = some circle ∧
      2 ≤ circle.length ∧ circle.dropLast.Nodup) ∧
      ∃ circle, ∀ expand : String → Variables → String,
        forRun ⟨expand, Placeholder.references⟩ true configured params =
          .error (.variableCycle circle) := by
  intro configured params
  obtain ⟨-, shaped, refused⟩ := circles_are_refused Expander.placeholders
  have ofSecond : Expander.placeholders.successors (configured.overlay params) "b" = ["a", "c"] := by
    cbv
  have ofThird : Expander.placeholders.successors (configured.overlay params) "c" = ["b"] := by cbv
  have onward : Expander.placeholders.Refers (configured.overlay params) "b" "c" :=
    Expander.mem_successors_iff.mp (by simp [ofSecond])
  have back : Expander.placeholders.Refers (configured.overlay params) "c" "b" :=
    Expander.mem_successors_iff.mp (by simp [ofThird])
  obtain ⟨circle, found, -, fails⟩ := refused configured params "b" (.head onward (.single back))
  obtain ⟨two, -, -, nodup⟩ := shaped _ circle found
  exact ⟨⟨circle, found, two, nodup⟩, circle, fails⟩

end Variables

end DocPipeline
