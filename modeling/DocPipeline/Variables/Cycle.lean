import DocPipeline.Variables.Placeholder

/-!
# Cycles among variables

Variables form a graph: one refers to another when the other's name occurs in its value. A
depth-first search in order of name looks for a way back to a variable that it is still busy with.

## Main definitions

* `Expander.successors`: the known variables that a variable refers to, in order of name.
* `Expander.findCycle`: the first circle of references, closed with its first name.
-/

namespace DocPipeline

namespace Expander

/-- The known variables that a variable refers to, in order of name and each once. -/
def successors (expander : Expander) (vars : Variables) (name : String) : List String :=
  match vars.get? name with
  | none => []
  | some value =>
    (NameMap.ofList (((expander.references value).filter vars.contains).map (·, ()))).names

/-- The part of a path that starts with a name, closed with that name. The path is given latest
name first. -/
def closeCycle (path : List String) (name : String) : List String :=
  ((path.reverse.dropWhile (· ≠ name))) ++ [name]

mutual

/-- Searches from a variable. `path` holds the variables on the way to it, latest first, and `done`
those from which no circle was found. The answer is a circle, or `done` with more variables.
No more than `depth` variables are added to the path. -/
def visit (successors : String → List String) : (depth : Nat) → (path done : List String) →
    String → Except (List String) (List String)
  | 0, _, done, _ => .ok done
  | depth + 1, path, done, name => do
      let done ← visitAll successors depth (name :: path) done (successors name)
      .ok (name :: done)
termination_by depth _ _ _ => (depth, 0)

/-- Searches from the variables that the latest one on the path refers to, one after the other. -/
def visitAll (successors : String → List String) : (depth : Nat) → (path done : List String) →
    List String → Except (List String) (List String)
  | _, _, done, [] => .ok done
  | depth, path, done, next :: rest =>
    if path.contains next then .error (closeCycle path next)
    else if done.contains next then visitAll successors depth path done rest
    else do
      let done ← visit successors depth path done next
      visitAll successors depth path done rest
termination_by depth _ _ names => (depth, names.length + 1)

end

/-- The first circle of references among variables, closed with its first name. A path without
repetition has no more variables than there are. -/
def findCycle (expander : Expander) (vars : Variables) : Option (List String) :=
  match visitAll (expander.successors vars) vars.size [] [] vars.names with
  | .ok _ => none
  | .error cycle => some cycle

end Expander

end DocPipeline
