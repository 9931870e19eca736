import DocPipeline.Proofs.NameMap
import DocPipeline.Variables.Cycle
import Mathlib.Data.List.Chain
import Mathlib.Data.List.Perm.Subperm
import Mathlib.Data.List.TakeWhile

/-!
# The search for cycles is right

The depth-first search answers with a circle of references exactly if there is one. What it has
finished without an answer stands in its list in such an order that every variable refers only to
those finished before it, so that none of them is on a circle. The bound on the depth is never met:
the path holds no variable twice, and no others than those there are.

## Main definitions

* `Expander.Refers`: one variable refers to another that is known.
* `Expander.IsCircle`: a circle, closed with its first name.
* `Expander.Finished`: names in the order in which a search may finish them.

## Main results

* `Expander.visitAll_spec`: what a search comes to.
* `Expander.findCycle_spec`, `Expander.findCycle_eq_none_iff`: a circle is found exactly if there is
  one.
-/

namespace DocPipeline.Expander

/-! ### Circles -/

section Circles

variable (successors : String → List String)

/-- There is a way from one name to another. -/
def Leads (name next : String) : Prop := next ∈ successors name

/-- A circle, closed with its first name. -/
structure IsCircle (circle : List String) : Prop where
  two_le_length : 2 ≤ circle.length
  closed : circle.head? = circle.getLast?
  linked : circle.IsChain (Leads successors)
  nodup : circle.dropLast.Nodup

/-- A circle leads from a name back to it. -/
theorem IsCircle.exists_transGen {successors : String → List String} {circle : List String}
    (isCircle : IsCircle successors circle) :
    ∃ name, Relation.TransGen (Leads successors) name name := by
  obtain ⟨two, closed, linked, -⟩ := isCircle
  match circle with
  | [] => cases two
  | [name] => simp at two
  | first :: second :: rest =>
      refine ⟨first, ?_⟩
      rw [List.isChain_cons_cons] at linked
      obtain ⟨step, linked⟩ := linked
      have back : (second :: rest).getLast (List.cons_ne_nil _ _) = first := by
        rw [List.head?_cons, List.getLast?_cons_cons,
          List.getLast?_eq_getLast_of_ne_nil (List.cons_ne_nil _ _)] at closed
        exact (Option.some.inj closed).symm
      exact .head' step (List.relationReflTransGen_of_exists_isChain_cons rest linked back)

/-- Names in an order in which a search may finish them, latest first: all that a name leads to was
finished before it. -/
inductive Finished : List String → Prop where
  | nil : Finished []
  | cons {name : String} {done : List String} (before : successors name ⊆ done)
      (rest : Finished done) : Finished (name :: done)

variable {successors}

/-- Nothing leads out of what is finished. -/
theorem Finished.successors_subset {done : List String} (finished : Finished successors done)
    {name : String} (mem : name ∈ done) : successors name ⊆ done := by
  induction finished with
  | nil => cases mem
  | @cons latest done before rest ih =>
      rcases List.mem_cons.mp mem with rfl | mem
      · exact List.subset_cons_of_subset _ before
      · exact List.subset_cons_of_subset _ (ih mem)

theorem Finished.mem_of_reflTransGen {done : List String} (finished : Finished successors done)
    {name last : String} (mem : name ∈ done)
    (way : Relation.ReflTransGen (Leads successors) name last) : last ∈ done := by
  induction way with
  | refl => exact mem
  | tail _ step ih => exact finished.successors_subset ih step

/-- **No finished name is on a circle.** -/
theorem Finished.acyclic {done : List String} (finished : Finished successors done)
    {name : String} (mem : name ∈ done) : ¬Relation.TransGen (Leads successors) name name := by
  induction finished with
  | nil => cases mem
  | @cons latest done before rest ih =>
      intro circle
      rcases List.mem_cons.mp mem with rfl | earlier
      · -- the circle leaves the latest name for an earlier one, which never leads back
        obtain ⟨next, step, way⟩ := Relation.TransGen.head'_iff.mp circle
        exact ih (rest.mem_of_reflTransGen (before step) way) circle
      · exact ih earlier circle

end Circles

/-! ### The search -/

section Search

variable {successors : String → List String} {known : List String} {depth : Nat}
  {path done : List String} {name : String}

/-- What holds of the path of a search: its names are known, each leads to the one behind it, none
is there twice, and the depth that is left is enough for all other names. -/
structure Underway (successors : String → List String) (known : List String) (depth : Nat)
    (path : List String) : Prop where
  linked : path.IsChain fun later earlier => Leads successors earlier later
  nodup : path.Nodup
  subset : path ⊆ known
  room : known.length ≤ path.length + depth

/-- A name that the path leads to. -/
def Ahead (successors : String → List String) (path : List String) (name : String) : Prop :=
  ∀ latest ∈ path.head?, Leads successors latest name

/-- There is room for a known name that is not on the path. -/
theorem Underway.depth_ne_zero (underway : Underway successors known depth path)
    (isKnown : name ∈ known) (fresh : name ∉ path) : depth ≠ 0 := by
  have distinct : (name :: path).Nodup := List.nodup_cons.mpr ⟨fresh, underway.nodup⟩
  have within : name :: path ⊆ known := List.cons_subset.mpr ⟨isKnown, underway.subset⟩
  have bound := (List.subperm_of_subset distinct within).length_le
  have room := underway.room
  rw [List.length_cons] at bound
  omega

/-- The path goes on to a known name that it leads to. -/
theorem Underway.push (underway : Underway successors known (depth + 1) path)
    (isKnown : name ∈ known) (fresh : name ∉ path) (ahead : Ahead successors path name) :
    Underway successors known depth (name :: path) where
  linked := List.isChain_cons.mpr ⟨ahead, underway.linked⟩
  nodup := List.nodup_cons.mpr ⟨fresh, underway.nodup⟩
  subset := List.cons_subset.mpr ⟨isKnown, underway.subset⟩
  room := by
    have room := underway.room
    rw [List.length_cons]
    omega

/-- **A path that leads back to a name on it closes a circle.** -/
theorem Underway.isCircle_closeCycle (underway : Underway successors known depth path)
    (mem : name ∈ path) (ahead : Ahead successors path name) :
    IsCircle successors (closeCycle path name) := by
  have linked : path.reverse.IsChain (Leads successors) :=
    List.isChain_reverse.mpr underway.linked
  -- the path from the name on, in the order in which it was walked
  obtain ⟨rest, cut⟩ : ∃ rest, path.reverse.dropWhile (· ≠ name) = name :: rest := by
    have stops := List.head?_dropWhile_not (· ≠ name) path.reverse
    cases cut : path.reverse.dropWhile (· ≠ name) with
    | nil =>
        have all := List.dropWhile_eq_nil_iff.mp cut name (List.mem_reverse.mpr mem)
        simp at all
    | cons first rest =>
        rw [cut] at stops
        obtain rfl : first = name := by simpa using stops
        exact ⟨rest, rfl⟩
  have isSuffix : name :: rest <:+ path.reverse := cut ▸ List.dropWhile_suffix _
  have last : (name :: rest).getLast? = path.head? := by
    obtain ⟨before, whole⟩ := isSuffix
    rw [← List.getLast?_reverse, ← whole, List.getLast?_append,
      List.getLast?_eq_getLast_of_ne_nil (List.cons_ne_nil _ _), Option.some_or]
  rw [closeCycle, cut]
  refine ⟨by simp, by rw [List.getLast?_concat]; rfl, ?_, ?_⟩
  · refine List.isChain_append.mpr ⟨linked.suffix isSuffix, List.isChain_singleton _, ?_⟩
    intro latest isLast next isNext
    obtain rfl : name = next := by simpa using isNext
    exact ahead latest (last ▸ isLast)
  · rw [List.dropLast_concat]
    exact (List.nodup_reverse.mpr underway.nodup).sublist isSuffix.sublist

/-- What a search for a circle from some names comes to, when some were finished before: a circle,
or more finished names, with those among them. -/
def Searched (successors : String → List String) (done names : List String) :
    Except (List String) (List String) → Prop
  | .error circle => IsCircle successors circle
  | .ok after => Finished successors after ∧ done ⊆ after ∧ names ⊆ after

namespace Searched

variable {between names : List String} {result : Except (List String) (List String)}

/-- Fewer names were finished before. -/
theorem of_subset (searched : Searched successors between names result) (more : done ⊆ between) :
    Searched successors done names result := by
  cases result with
  | error circle => exact searched
  | ok after =>
      obtain ⟨finished, stillMore, all⟩ := searched
      exact ⟨finished, List.Subset.trans more stillMore, all⟩

/-- A name that was finished before needs no search. -/
theorem cons_of_mem (searched : Searched successors done names result) (mem : name ∈ done) :
    Searched successors done (name :: names) result := by
  cases result with
  | error circle => exact searched
  | ok after =>
      obtain ⟨finished, more, all⟩ := searched
      exact ⟨finished, more, List.cons_subset.mpr ⟨more mem, all⟩⟩

/-- One search after another. -/
theorem bind {onward : List String → Except (List String) (List String)}
    (searched : Searched successors done [name] result)
    (rest : ∀ between, Finished successors between →
      Searched successors between names (onward between)) :
    Searched successors done (name :: names) (result >>= onward) := by
  cases result with
  | error circle => exact searched
  | ok between =>
      obtain ⟨finished, more, single⟩ := searched
      have onwards := rest between finished
      exact (onwards.cons_of_mem (single List.mem_cons_self)).of_subset more

/-- A name is finished when all it leads to is. -/
theorem finish (searched : Searched successors done (successors name) result) :
    Searched successors done [name] (result >>= fun done => .ok (name :: done)) := by
  cases result with
  | error circle => exact searched
  | ok after =>
      obtain ⟨finished, more, all⟩ := searched
      exact ⟨.cons all finished, List.subset_cons_of_subset _ more,
        List.cons_subset.mpr ⟨List.mem_cons_self, List.nil_subset _⟩⟩

end Searched

/-- Searching from names one after the other comes to what it has to, if searching from a single
name does. -/
theorem visitAll_spec_of_visit
    (visits : ∀ {done name}, Finished successors done → name ∈ known → name ∉ path →
      Ahead successors path name →
      Searched successors done [name] (visit successors depth path done name))
    (underway : Underway successors known depth path) {names : List String}
    (finished : Finished successors done) (isKnown : names ⊆ known)
    (ahead : ∀ name ∈ names, Ahead successors path name) :
    Searched successors done names (visitAll successors depth path done names) := by
  induction names generalizing done with
  | nil =>
      rw [visitAll]
      exact ⟨finished, List.Subset.refl _, List.nil_subset _⟩
  | cons name rest ih =>
      obtain ⟨nameKnown, restKnown⟩ := List.cons_subset.mp isKnown
      obtain ⟨nameAhead, restAhead⟩ := List.forall_mem_cons.mp ahead
      rw [visitAll]
      by_cases onPath : path.contains name
      · rw [if_pos onPath]
        exact underway.isCircle_closeCycle (List.contains_iff_mem.mp onPath) nameAhead
      rw [if_neg onPath]
      have fresh : name ∉ path := fun mem => onPath (List.contains_iff_mem.mpr mem)
      by_cases isDone : done.contains name
      · rw [if_pos isDone]
        exact (ih finished restKnown restAhead).cons_of_mem (List.contains_iff_mem.mp isDone)
      · rw [if_neg isDone]
        exact (visits finished nameKnown fresh nameAhead).bind fun between finishedBetween =>
          ih finishedBetween restKnown restAhead

/-- **Searching from one name**, by induction on the depth that is left: a search that goes into the
name walks on from there with one level less, and the name is finished after all it leads to. -/
theorem visit_spec (closed : ∀ name, successors name ⊆ known)
    (underway : Underway successors known depth path) (finished : Finished successors done)
    (isKnown : name ∈ known) (fresh : name ∉ path) (ahead : Ahead successors path name) :
    Searched successors done [name] (visit successors depth path done name) := by
  induction depth generalizing path done name with
  | zero => exact absurd rfl (underway.depth_ne_zero isKnown fresh)
  | succ depth ih =>
      have onward := underway.push isKnown fresh ahead
      have leads : ∀ next ∈ successors name, Ahead successors (name :: path) next := by
        intro next leads latest isLatest
        obtain rfl : name = latest := by simpa using isLatest
        exact leads
      rw [visit]
      exact (visitAll_spec_of_visit (ih onward) onward finished (closed name) leads).finish

/-- **Searching from a list of names.** -/
theorem visitAll_spec (closed : ∀ name, successors name ⊆ known)
    (underway : Underway successors known depth path) (finished : Finished successors done)
    {names : List String} (isKnown : names ⊆ known)
    (ahead : ∀ name ∈ names, Ahead successors path name) :
    Searched successors done names (visitAll successors depth path done names) :=
  visitAll_spec_of_visit (visit_spec closed underway) underway finished isKnown ahead

end Search

/-! ### References among variables -/

section References

variable {expander : Expander} {vars : Variables} {name next : String}

/-- One variable refers to another that is known. -/
def Refers (expander : Expander) (vars : Variables) (name next : String) : Prop :=
  ∃ value, vars.get? name = some value ∧ next ∈ expander.references value ∧ next ∈ vars.names

/-- The search goes to the variables that are referred to. -/
theorem mem_successors_iff :
    next ∈ expander.successors vars name ↔ expander.Refers vars name next := by
  rw [successors, Refers]
  cases found : vars.get? name with
  | none => simp
  | some value =>
      rw [NameMap.mem_names_ofList, NameMap.mem_names_iff]
      simp

theorem leads_successors : Leads (expander.successors vars) = expander.Refers vars := by
  funext name next
  exact propext mem_successors_iff

/-- References lead to known variables. -/
theorem successors_subset (name : String) : expander.successors vars name ⊆ vars.names := by
  intro next mem
  obtain ⟨-, -, -, isKnown⟩ := mem_successors_iff.mp mem
  exact isKnown

/-- **What the search for a cycle answers**: a circle of references, or nothing if no variable refers
back to itself along any way. -/
theorem findCycle_spec (expander : Expander) (vars : Variables) :
    match expander.findCycle vars with
    | some circle => IsCircle (expander.successors vars) circle
    | none => ∀ name, ¬Relation.TransGen (expander.Refers vars) name name := by
  have underway : Underway (expander.successors vars) vars.names vars.size [] :=
    ⟨List.isChain_nil, List.nodup_nil, List.nil_subset _, by simp [vars.length_names]⟩
  have searched := visitAll_spec successors_subset underway .nil (List.Subset.refl _)
    (fun name _ latest isLatest => by cases isLatest)
  rw [findCycle]
  cases result : visitAll (expander.successors vars) vars.size [] [] vars.names with
  | error circle =>
      rw [result] at searched
      exact searched
  | ok after =>
      rw [result] at searched
      obtain ⟨finished, -, all⟩ := searched
      intro name circle
      rw [← leads_successors] at circle
      -- a name that leads anywhere is known, and so it was finished
      obtain ⟨next, step, -⟩ := Relation.TransGen.head'_iff.mp circle
      obtain ⟨value, found, -⟩ := mem_successors_iff.mp step
      exact finished.acyclic (all (NameMap.mem_names_of_get? found)) circle

/-- **No cycle is found exactly if there is none.** -/
theorem findCycle_eq_none_iff :
    expander.findCycle vars = none ↔
      ∀ name, ¬Relation.TransGen (expander.Refers vars) name name := by
  have answer := expander.findCycle_spec vars
  cases found : expander.findCycle vars with
  | none =>
      rw [found] at answer
      exact iff_of_true rfl answer
  | some circle =>
      rw [found] at answer
      obtain ⟨name, back⟩ := answer.exists_transGen
      rw [leads_successors] at back
      exact iff_of_false nofun fun acyclic => acyclic name back

end References

end DocPipeline.Expander
