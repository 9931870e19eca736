import DocPipeline.Failure
import DocPipeline.Variables.Cycle

/-!
# Resolving variables

The variables of a run are the configured ones with those of the caller laid over them. When they
are to be resolved, circles of references are refused first; then all values are expanded in order
of name, each in the light of those before it, until a pass changes nothing.

## Main definitions

* `Variables.resolve`: variables with all values expanded.
* `Variables.forRun`: the variables of a run.
-/

namespace DocPipeline

namespace Variables

/-- How many passes over the variables there are at most. -/
def maxPasses : Nat := 16

/-- How many bytes a value may have. -/
def maxValueSize : Nat := 1048576

/-- The variables in the middle of a pass, and the names that the pass has changed, latest
first. -/
structure Pass where
  vars : Variables
  changed : List String

/-- Expands the value of one variable. -/
def expandOne (expander : Expander) (pass : Pass) (name : String) :
    Except ConfigurationError Pass :=
  let current := (pass.vars.get? name).getD ""
  let expanded := expander.expand current pass.vars
  if maxValueSize < expanded.utf8ByteSize then .error (.variableOverflow name maxValueSize)
  else if expanded = current then .ok pass
  else .ok ⟨pass.vars.insert name expanded, name :: pass.changed⟩

/-- Expands the values of all variables once, in order of name. -/
def expandAll (expander : Expander) (vars : Variables) : Except ConfigurationError Pass :=
  vars.names.foldlM (expandOne expander) ⟨vars, []⟩

/-- Expands the values of all variables until a pass changes nothing. `changing` are the names that
the pass before has changed, in order. -/
def settle (expander : Expander) : (passes : Nat) → (changing : List String) → Variables →
    Except ConfigurationError Variables
  | 0, changing, _ => .error (.unsettledVariables changing maxPasses)
  | passes + 1, _, vars => do
      let pass ← expandAll expander vars
      if pass.changed.isEmpty then .ok pass.vars
      else settle expander passes pass.changed.reverse pass.vars

/-- Variables with all values expanded. -/
def resolve (expander : Expander) (vars : Variables) : Except ConfigurationError Variables :=
  match expander.findCycle vars with
  | some cycle => .error (.variableCycle cycle)
  | none => settle expander maxPasses [] vars

/-- The variables of a run: those of the caller over the configured ones, resolved if asked. -/
def forRun (expander : Expander) (resolving : Bool) (configured params : Variables) :
    Except ConfigurationError Variables :=
  let vars := configured.overlay params
  if resolving then resolve expander vars else .ok vars

end Variables

end DocPipeline
