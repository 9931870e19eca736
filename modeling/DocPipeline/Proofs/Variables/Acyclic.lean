import DocPipeline.Proofs.Variables.Resolution
import DocPipeline.Proofs.Variables.Tidy
import Mathlib

/-!
# Variables without cycles

Variables that are tidy and have no cycle always resolve, to the solution of their own equations,
unless a value grows too large. Every pass replaces references by what these refer to, so that the
references that are left reach at least twice as far as before, measured along the references of
the variables at the start. Where there is no cycle, nothing reaches as far as there are variables,
and the passes are enough for all of them to be gone before the last.

## Main definitions

* `Steps`: a way of so many steps along a relation.
* `Variables.Far`: how far the references that are left reach.
* `Variables.Solves`: every value is what another map makes of it.

## Main results

* `Steps.lt_length`: without cycles no way has as many steps as there are names.
* `Variables.Far.afterPass`: a pass doubles how far references reach.
* `Variables.Solves.of_foldl`: solutions of what a pass gives are solutions of what it was given.
* `Variables.forRun_acyclic`: tidy variables without cycles resolve to their solution.
-/

namespace DocPipeline

/-! ### Ways -/

/-- There is a way of so many steps from one name to another. -/
inductive Steps (r : String → String → Prop) : Nat → String → String → Prop where
  | refl (name : String) : Steps r 0 name name
  | head {count : Nat} {first second last : String} (step : r first second)
      (rest : Steps r count second last) : Steps r (count + 1) first last

namespace Steps

variable {r : String → String → Prop} {first second last : String} {count more : Nat}

/-- One way after another. -/
theorem trans (way : Steps r count first second) (rest : Steps r more second last) :
    Steps r (count + more) first last := by
  induction way with
  | refl name =>
      rw [Nat.zero_add]
      exact rest
  | head step _ ih =>
      rw [Nat.succ_add]
      exact .head step (ih rest)

/-- A way with a step in it leads along the relation. -/
theorem transGen (way : Steps r count first last) (someStep : 0 < count) :
    Relation.TransGen r first last := by
  induction way with
  | refl name => cases someStep
  | @head count first second last step rest ih =>
      cases count with
      | zero =>
          cases rest
          exact .single step
      | succ count => exact .head step (ih (Nat.succ_pos count))

/-- The names along a way. -/
theorem exists_isChain {known : List String} (within : ∀ a b, r a b → b ∈ known)
    (way : Steps r count first last) (isKnown : first ∈ known) :
    ∃ others, others.length = count ∧ (first :: others).IsChain r ∧ first :: others ⊆ known := by
  induction way with
  | refl name =>
      exact ⟨[], rfl, List.isChain_singleton name,
        List.cons_subset.mpr ⟨isKnown, List.nil_subset _⟩⟩
  | @head count first second last step rest ih =>
      obtain ⟨others, length, linked, subset⟩ := ih (within first second step)
      refine ⟨second :: others, by rw [List.length_cons, length], ?_, ?_⟩
      · exact List.isChain_cons_cons.mpr ⟨step, linked⟩
      · exact List.cons_subset.mpr ⟨isKnown, subset⟩

/-- **Without cycles, a way has fewer steps than there are names**: it passes none of them twice. -/
theorem lt_length {known : List String} (within : ∀ a b, r a b → b ∈ known)
    (acyclic : ∀ name, ¬Relation.TransGen r name name) (way : Steps r count first last)
    (isKnown : first ∈ known) : count < known.length := by
  obtain ⟨others, length, linked, subset⟩ := way.exists_isChain within isKnown
  have ordered : (first :: others).Pairwise (Relation.TransGen r) :=
    List.isChain_iff_pairwise.mp (linked.imp fun _ _ step => Relation.TransGen.single step)
  have distinct : (first :: others).Nodup := by
    refine ordered.imp ?_
    rintro name _ leads rfl
    exact acyclic name leads
  have bound := (List.subperm_of_subset distinct subset).length_le
  rw [List.length_cons, length] at bound
  exact bound

end Steps

namespace Variables

open Placeholder (TidyValues Tidy)

variable {start vars solution : Variables} {name : String} {names : List String} {bound : Nat}
  {done : List String}

/-- One variable refers to another that is known, by a placeholder. -/
abbrev Mentions (vars : Variables) : String → String → Prop := Expander.placeholders.Refers vars

/-- Nothing refers back to itself along any way. -/
def Acyclic (vars : Variables) : Prop := ∀ name, ¬Relation.TransGen (Mentions vars) name name

/-! ### How far references reach -/

/-- The references that are left reach far along those at the start: at least `bound` steps, and
twice as many from those names that the pass is `done` with. -/
structure Far (start vars : Variables) (bound : Nat) (done : List String) : Prop where
  names_eq : vars.names = start.names
  tidy : TidyValues vars
  reach : ∀ first last, Mentions vars first last →
    ∃ count, Steps (Mentions start) count first last ∧ bound ≤ count ∧
      (first ∈ done → 2 * bound ≤ count)

/-- At the start, references reach one step. -/
theorem Far.initial (tidy : TidyValues start) : Far start start 1 [] where
  names_eq := rfl
  tidy := tidy
  reach := fun first last mentions =>
    ⟨1, .head mentions (.refl last), Nat.le_refl 1, fun mem => by cases mem⟩

/-- Where there is no cycle at the start, no variable refers to itself later on. -/
theorem Far.selfless (far : Far start vars bound done) (acyclic : Acyclic start)
    (positive : 0 < bound) : ¬Mentions vars name name := by
  intro mentions
  obtain ⟨count, way, least, -⟩ := far.reach name name mentions
  exact acyclic name (way.transGen (Nat.lt_of_lt_of_le positive least))

/-- What the variables refer to after one value was expanded. -/
theorem mentions_expandNext (tidy : TidyValues vars) (mem : name ∈ vars.names) {first last : String}
    (mentions : Mentions (expandNext .placeholders vars name) first last) :
    (first ≠ name ∧ Mentions vars first last) ∨
      (first = name ∧ ∃ between, Mentions vars name between ∧ Mentions vars between last) := by
  obtain ⟨value, found, refers, isKnown⟩ := mentions
  rw [names_expandNext mem] at isKnown
  rw [expandNext, NameMap.get?_insert] at found
  by_cases same : first = name
  · rw [if_pos same] at found
    obtain ⟨old, isOld⟩ := NameMap.exists_get?_of_mem_names mem
    rw [isOld, Option.getD_some] at found
    obtain rfl := Option.some.inj found
    refine .inr ⟨same, ?_⟩
    rcases Placeholder.references_expand (tidy name old isOld) tidy refers with
      ⟨-, unknown⟩ | ⟨between, own, refersThere, isOwn, refersOn⟩
    · obtain ⟨known, isThere⟩ := NameMap.exists_get?_of_mem_names isKnown
      rw [unknown] at isThere
      cases isThere
    · exact ⟨between, ⟨old, isOld, refersThere, NameMap.mem_names_of_get? isOwn⟩,
        ⟨own, isOwn, refersOn, isKnown⟩⟩
  · rw [if_neg same] at found
    exact .inl ⟨same, value, found, refers, isKnown⟩

/-- Expanding one value keeps values tidy. -/
theorem tidyValues_expandNext (tidy : TidyValues vars) (mem : name ∈ vars.names) :
    TidyValues (expandNext .placeholders vars name) := by
  intro other value found
  obtain ⟨old, isOld⟩ := NameMap.exists_get?_of_mem_names mem
  rw [expandNext, NameMap.get?_insert, isOld, Option.getD_some] at found
  by_cases same : other = name
  · rw [if_pos same] at found
    obtain rfl := Option.some.inj found
    exact Placeholder.tidy_expand (tidy name old isOld) tidy
  · rw [if_neg same] at found
    exact tidy other value found

/-- **Expanding one value** makes the references of its variable reach twice as far, whether the
variables in between were expanded before or not. -/
theorem Far.expandNext (far : Far start vars bound done) (mem : name ∈ vars.names) :
    Far start (expandNext .placeholders vars name) bound (name :: done) where
  names_eq := (names_expandNext mem).trans far.names_eq
  tidy := tidyValues_expandNext far.tidy mem
  reach := by
    intro first last mentions
    rcases mentions_expandNext far.tidy mem mentions with
      ⟨other, mentions⟩ | ⟨rfl, between, there, onward⟩
    · obtain ⟨count, way, least, twice⟩ := far.reach first last mentions
      refine ⟨count, way, least, fun isDone => ?_⟩
      rcases List.mem_cons.mp isDone with same | isDone
      · exact absurd same other
      · exact twice isDone
    · obtain ⟨count, way, least, -⟩ := far.reach first between there
      obtain ⟨more, rest, leastMore, -⟩ := far.reach between last onward
      exact ⟨count + more, way.trans rest, by omega, fun _ => by omega⟩

/-- The names of a pass, one after the other. -/
theorem Far.foldl (far : Far start vars bound done) (known : names ⊆ vars.names) :
    Far start (names.foldl (Variables.expandNext .placeholders) vars) bound
      (names.reverse ++ done) := by
  induction names generalizing vars done with
  | nil => exact far
  | cons name rest ih =>
      obtain ⟨mem, known⟩ := List.cons_subset.mp known
      have onward := ih (far.expandNext mem) (by rw [names_expandNext mem]; exact known)
      rw [List.reverse_cons, List.append_assoc, List.singleton_append]
      exact onward

/-- **A whole pass doubles how far references reach.** -/
theorem Far.afterPass (far : Far start vars bound []) :
    Far start (afterPass .placeholders vars) (2 * bound) [] := by
  have passed := far.foldl (List.Subset.refl vars.names)
  refine ⟨passed.names_eq, passed.tidy, fun first last mentions => ?_⟩
  obtain ⟨count, way, -, twice⟩ := passed.reach first last mentions
  refine ⟨count, way, twice ?_, fun mem => by cases mem⟩
  obtain ⟨value, found, -⟩ := mentions
  have isKnown := NameMap.mem_names_of_get? found
  rw [names_afterPass] at isKnown
  exact List.mem_append_left _ (List.mem_reverse.mpr isKnown)

/-- **References cannot reach as far as there are variables.** -/
theorem Far.mentions_nothing (far : Far start vars bound done) (acyclic : Acyclic start)
    (small : start.size ≤ bound) (first last : String) : ¬Mentions vars first last := by
  intro mentions
  obtain ⟨count, way, least, -⟩ := far.reach first last mentions
  obtain ⟨value, found, -⟩ := mentions
  have isKnown := NameMap.mem_names_of_get? found
  rw [far.names_eq] at isKnown
  have bounded := way.lt_length (fun a b => fun ⟨_, _, _, there⟩ => there) acyclic isKnown
  rw [NameMap.length_names] at bounded
  omega

/-! ### Solutions -/

/-- Every value of the variables is in the solution as the solution makes it of that value. -/
def Solves (solution vars : Variables) : Prop :=
  ∀ name value, vars.get? name = some value →
    solution.get? name = some (Placeholder.expand value solution)

/-- Settled variables are their own solution. -/
theorem Solves.of_settled (settled : Settled .placeholders vars) : Solves vars vars := by
  intro name value found
  have same : Placeholder.expand value vars = value := (settled name value found).1
  rw [same, found]

/-- **Solutions before one value was expanded.** What solves the variables after that solves them
before, as the value did not refer to its own variable. -/
theorem Solves.of_expandNext (solves : Solves solution (expandNext .placeholders vars name))
    (tidy : TidyValues vars) (selfless : ¬Mentions vars name name) (mem : name ∈ vars.names) :
    Solves solution vars := by
  have others : ∀ other own, other ≠ name → vars.get? other = some own →
      solution.get? other = some (Placeholder.expand own solution) := by
    intro other own differ isOwn
    refine solves other own ?_
    rw [expandNext, NameMap.get?_insert_of_ne _ _ differ, isOwn]
  intro other value found
  by_cases same : other = name
  · subst same
    have solved := solves other (Placeholder.expand value vars) (by
      rw [expandNext, NameMap.get?_insert_self, found, Option.getD_some]
      rfl)
    rw [solved, Placeholder.expand_expand (tidy other value found) tidy]
    intro next own refers isOwn
    refine others next own ?_ isOwn
    rintro rfl
    exact selfless ⟨value, found, refers, mem⟩
  · exact others other value same found

/-- **Solutions before a pass.** -/
theorem Solves.of_foldl (solves : Solves solution (names.foldl (expandNext .placeholders) vars))
    (far : Far start vars bound done) (acyclic : Acyclic start) (positive : 0 < bound)
    (known : names ⊆ vars.names) : Solves solution vars := by
  induction names generalizing vars done with
  | nil => exact solves
  | cons name rest ih =>
      obtain ⟨mem, known⟩ := List.cons_subset.mp known
      have after := ih solves (far.expandNext mem) (by rw [names_expandNext mem]; exact known)
      exact after.of_expandNext far.tidy (far.selfless acyclic positive) mem

/-! ### Enough passes -/

/-- How far the references that are left reach after some passes. -/
def reachAfter : Nat → Nat
  | 0 => 1
  | passes + 1 => 2 * reachAfter passes

theorem reachAfter_pos (passes : Nat) : 0 < reachAfter passes := by
  induction passes with
  | zero => exact Nat.one_pos
  | succ passes ih =>
      rw [reachAfter]
      omega

/-- The variables after some passes, however large the values grow. -/
def afterPasses (vars : Variables) : Nat → Variables
  | 0 => vars
  | passes + 1 => afterPass .placeholders (afterPasses vars passes)

/-- **References reach far after some passes.** -/
theorem far_afterPasses (tidy : TidyValues start) (passes : Nat) :
    Far start (afterPasses start passes) (reachAfter passes) [] := by
  induction passes with
  | zero => exact .initial tidy
  | succ passes ih => exact ih.afterPass

/-- Values that refer to nothing known expand to themselves. -/
theorem fixed_of_mentions_nothing (nothing : ∀ first last, ¬Mentions vars first last) :
    Fixed .placeholders vars := by
  intro name value found
  change Placeholder.expand value vars = value
  rw [← String.toList_inj, Placeholder.toList_expand]
  refine Eq.trans ?_ (Placeholder.flatMap_written_split value.toList)
  refine List.flatMap_congr fun piece mem => Placeholder.Piece.expand_of_not_isKnown ?_
  rintro ⟨other, own, rfl, isOwn⟩
  exact nothing name other ⟨value, found, Placeholder.mem_references_iff.mpr mem,
    NameMap.mem_names_of_get? isOwn⟩

/-- A value grows too large in one of the passes, and the error says so. -/
def Overflowed (start : Variables) (error : ConfigurationError) : Prop :=
  ∃ name passes, error = .variableOverflow name maxValueSize ∧ passes < maxPasses ∧
    Overflows .placeholders (afterPasses start passes) start.names name

/-- **The passes that are left are enough**, by induction on their number: if the last of them still
changed something, then references would be left that reach further than there are variables. -/
theorem settle_afterPasses (tidy : TidyValues start) (acyclic : Acyclic start) (passes left : Nat)
    (enough : start.size ≤ reachAfter (passes + left)) (allowed : passes + left < maxPasses)
    (changing : List String) :
    match settle .placeholders (left + 1) changing (afterPasses start passes) with
    | .ok solution => Solves solution (afterPasses start passes)
    | .error error => Overflowed start error := by
  induction left generalizing passes changing with
  | zero =>
      have far := far_afterPasses tidy passes
      rcases settle_succ .placeholders 0 changing (afterPasses start passes) with
        ⟨name, large, overflows⟩ | ⟨settled, stops⟩ | ⟨unfixed, -⟩
      · rw [far.names_eq] at large
        rw [overflows]
        exact ⟨name, passes, rfl, allowed, large⟩
      · rw [stops]
        exact .of_settled settled
      · have nothing := far.mentions_nothing acyclic enough
        exact absurd (fixed_of_mentions_nothing nothing) unfixed
  | succ left ih =>
      have far := far_afterPasses tidy passes
      rcases settle_succ .placeholders (left + 1) changing (afterPasses start passes) with
        ⟨name, large, overflows⟩ | ⟨settled, stops⟩ | ⟨-, changed, onward⟩
      · rw [far.names_eq] at large
        rw [overflows]
        exact ⟨name, passes, rfl, by omega, large⟩
      · rw [stops]
        exact .of_settled settled
      · have rest := Nat.succ_add_eq_add_succ passes left
        have later := ih (passes + 1) (by rw [rest]; exact enough) (by rw [rest]; exact allowed) changed
        rw [afterPasses] at later
        rw [onward]
        cases result : settle .placeholders (left + 1) changed
            (afterPass .placeholders (afterPasses start passes)) with
        | error error =>
            rw [result] at later
            exact later
        | ok solution =>
            rw [result] at later
            exact later.of_foldl far acyclic (reachAfter_pos passes) (List.Subset.refl _)

/-- **Tidy variables without cycles resolve.** With no more than 32768 variables, the passes end with
a solution, in which every value is the one at the start with each known name replaced by what the
solution has for it, and each unknown one left as it is written; or else a value grows too large in
one of the passes. -/
theorem forRun_acyclic {configured params : Variables}
    (few : (configured.overlay params).size ≤ 32768)
    (tidy : ∀ name value, (configured.overlay params).get? name = some value → Tidy value.toList)
    (acyclic : Acyclic (configured.overlay params)) :
    match forRun .placeholders true configured params with
    | .ok solution => solution.names = (configured.overlay params).names ∧
        ∀ name value, (configured.overlay params).get? name = some value →
          solution.get? name = some (Placeholder.expand value solution)
    | .error error => ∃ name passes, error = .variableOverflow name maxValueSize ∧
        passes < maxPasses ∧ Overflows .placeholders
          (afterPasses (configured.overlay params) passes) (configured.overlay params).names name := by
  have noCycle := Expander.findCycle_eq_none_iff.mpr acyclic
  have starts : forRun .placeholders true configured params =
      settle .placeholders maxPasses [] (configured.overlay params) := by
    rw [forRun, if_pos rfl, resolve, noCycle]
  have settles := settle_afterPasses tidy acyclic 0 15 few (by decide) []
  cases result : forRun .placeholders true configured params with
  | error error =>
      rw [starts, maxPasses] at result
      rw [afterPasses, result] at settles
      exact settles
  | ok solution =>
      have sameNames := (settled_of_forRun result).2
      rw [starts, maxPasses] at result
      rw [afterPasses, result] at settles
      exact ⟨sameNames, settles⟩

/-- A chain of references. -/
def chain : Variables :=
  .ofList [("a", "$\x7bb\x7d/$\x7bc\x7d"), ("b", "$\x7bc\x7d-b"), ("c", "root")]

/-- With a value of the caller at its end, the chain resolves to what its values spell. -/
theorem forRun_chain :
    ∃ solution, forRun .placeholders true chain (.single "c" "top") = .ok solution ∧
      solution.get? "a" = some (Placeholder.expand "$\x7bb\x7d/$\x7bc\x7d" solution) ∧
      solution.get? "a" = some "top-b/top" := by
  have tidy : TidyValues (chain.overlay (.single "c" "top")) :=
    Placeholder.tidyValues_of_all (by cbv)
  have acyclic : Acyclic (chain.overlay (.single "c" "top")) :=
    Expander.findCycle_eq_none_iff.mp (by cbv)
  have solved := forRun_acyclic (by decide) tidy acyclic
  have resolves : forRun .placeholders true chain (.single "c" "top") =
      .ok (.ofList [("a", "top-b/top"), ("b", "top-b"), ("c", "top")]) := by cbv
  rw [resolves] at solved
  exact ⟨_, resolves, solved.2 "a" _ (by cbv), by cbv⟩

end Variables

end DocPipeline
