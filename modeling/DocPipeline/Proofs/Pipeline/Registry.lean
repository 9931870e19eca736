import DocPipeline.Pipeline.Registry
import DocPipeline.Proofs.LastPosition
import DocPipeline.Proofs.NameMap
import DocPipeline.Run.Tally
import Mathlib

/-!
# The life cycle of registered pipelines

Pipelines are registered under their names, replaced, removed and cleared in any order, and a clear
may come to its names one by one while others go on. A ledger beside the registry says what was done
about which name: a pipeline stands as long as nothing was done about its name after it was
registered. The registry has the pipelines that stand and no others, and every pipeline that stands
no more was taken down once.

The same pipeline may be registered more than once, so that registrations go by their place in the
ledger.

## Main definitions

* `RegistryStep`, `RegistryUse`: the use of a registry, step by step, with its ledger.
* `RegistryChange.Standing`: a registered pipeline with nothing done about its name since.
* `RegistryUse.Consistent`: the invariant that ties a registry to its ledger.

## Main results

* `RegistryUse.Consistent.step`, `RegistryUse.Consistent.after`: the invariant is kept.
* `RegistryUse.life_cycle`: which pipelines a registry has, and which were taken down.
-/

namespace DocPipeline

/-! ### The ledger -/

/-- What is done about a name. -/
inductive RegistryChange where
  /-- A pipeline gets its name, whoever had it. -/
  | registered (pipeline : Pipeline)
  /-- Nobody has the name any more. -/
  | removed (name : String)

namespace RegistryChange

/-- The name that something is done about. -/
def name : RegistryChange → String
  | registered pipeline => pipeline.name
  | removed name => name

/-- The pipeline that is registered, if one is. -/
def pipeline? : RegistryChange → Option Pipeline
  | registered pipeline => some pipeline
  | removed _ => none

theorem pipeline?_eq_some_iff {change : RegistryChange} {pipeline : Pipeline} :
    change.pipeline? = some pipeline ↔ change = .registered pipeline := by
  cases change <;> simp [pipeline?]

/-- The number of the last change about a name. -/
def lastAbout? (changes : List RegistryChange) (name : String) : Option Nat :=
  lastWhere? (·.name = name) changes

variable {changes : List RegistryChange} {number : Nat} {pipeline : Pipeline}

/-- The pipeline was registered by the change of a number, and nothing was done about its name
since. -/
structure Standing (changes : List RegistryChange) (number : Nat) (pipeline : Pipeline) : Prop where
  registered : changes[number]? = some (.registered pipeline)
  since : ∀ later change, number < later → changes[later]? = some change →
    change.name ≠ pipeline.name

/-- A pipeline stands as long as its registration is the last change about its name. -/
theorem standing_iff :
    Standing changes number pipeline ↔
      changes[number]? = some (.registered pipeline) ∧
        lastAbout? changes pipeline.name = some number := by
  rw [lastAbout?, lastWhere?_eq_some_iff]
  constructor
  · rintro ⟨registered, since⟩
    exact ⟨registered, ⟨_, registered, decide_eq_true rfl⟩,
      fun later change behind found => decide_eq_false (since later change behind found)⟩
  · rintro ⟨registered, -, since⟩
    exact ⟨registered, fun later change behind found =>
      of_decide_eq_false (since later change behind found)⟩

/-- What stands after one more change: what stood before, unless the change is about its name, and
the pipeline that it registers. -/
theorem standing_append_singleton {change : RegistryChange} :
    Standing (changes ++ [change]) number pipeline ↔
      Standing changes number pipeline ∧ change.name ≠ pipeline.name ∨
        number = changes.length ∧ change = .registered pipeline := by
  constructor
  · rintro ⟨registered, since⟩
    rcases getElem?_append_singleton_iff.mp registered with old | new
    · have before := (List.getElem?_eq_some_iff.mp old).1
      refine .inl ⟨⟨old, fun later other behind found => ?_⟩, ?_⟩
      · exact since later other behind (getElem?_append_singleton_iff.mpr (.inl found))
      · exact since _ _ before (getElem?_append_singleton_iff.mpr (.inr ⟨rfl, rfl⟩))
    · exact .inr new
  · rintro (⟨⟨registered, since⟩, spares⟩ | ⟨rfl, rfl⟩)
    · refine ⟨getElem?_append_singleton_iff.mpr (.inl registered),
        fun later other behind found => ?_⟩
      rcases getElem?_append_singleton_iff.mp found with old | ⟨-, rfl⟩
      · exact since later other behind old
      · exact spares
    · refine ⟨getElem?_append_singleton_iff.mpr (.inr ⟨rfl, rfl⟩),
        fun later other behind found => ?_⟩
      rcases getElem?_append_singleton_iff.mp found with old | ⟨rfl, -⟩
      · exact absurd (List.getElem?_eq_some_iff.mp old).1 (Nat.lt_asymm behind)
      · exact absurd behind (Nat.lt_irrefl _)

/-- What stands for a name after one more change: what the change registers, if it is about the name,
and otherwise what stood for it before. -/
theorem exists_standing_append_singleton {change : RegistryChange} {name : String} :
    (∃ number, pipeline.name = name ∧ Standing (changes ++ [change]) number pipeline) ↔
      if name = change.name then change = .registered pipeline
      else ∃ number, pipeline.name = name ∧ Standing changes number pipeline := by
  simp only [standing_append_singleton]
  by_cases same : name = change.name
  · rw [if_pos same]
    constructor
    · rintro ⟨number, rfl, ⟨-, differ⟩ | ⟨-, new⟩⟩
      · exact absurd same.symm differ
      · exact new
    · rintro rfl
      exact ⟨_, same.symm, .inr ⟨rfl, rfl⟩⟩
  · rw [if_neg same]
    constructor
    · rintro ⟨number, rfl, ⟨old, -⟩ | ⟨-, rfl⟩⟩
      · exact ⟨number, rfl, old⟩
      · exact absurd rfl same
    · rintro ⟨number, rfl, stands⟩
      exact ⟨number, rfl, .inl ⟨stands, Ne.symm same⟩⟩

/-- The pipeline was registered by the change of a number, and something was done about its name
since. -/
def Ended (changes : List RegistryChange) (number : Nat) (pipeline : Pipeline) : Prop :=
  changes[number]? = some (.registered pipeline) ∧ ¬ Standing changes number pipeline

/-- What has ended after one more change: what had ended before, and what stood for the name that
the change is about. -/
theorem ended_append_singleton {change : RegistryChange} :
    Ended (changes ++ [change]) number pipeline ↔
      Ended changes number pipeline ∨
        Standing changes number pipeline ∧ change.name = pipeline.name := by
  rw [Ended, Ended, getElem?_append_singleton_iff, standing_append_singleton]
  have old_ne_new (old : changes[number]? = some (.registered pipeline)) :
      number ≠ changes.length := Nat.ne_of_lt (List.getElem?_eq_some_iff.mp old).1
  constructor
  · rintro ⟨old | new, no⟩
    · by_cases stands : Standing changes number pipeline
      · exact .inr ⟨stands, by_contra fun differ => no (.inl ⟨stands, differ⟩)⟩
      · exact .inl ⟨old, stands⟩
    · exact absurd (.inr new) no
  · rintro (⟨old, no⟩ | ⟨stands, same⟩)
    · exact ⟨.inl old, fun again => again.elim (fun stands => no stands.1)
        fun new => old_ne_new old new.1⟩
    · exact ⟨.inl stands.registered, fun again => again.elim (fun spared => spared.2 same)
        fun new => old_ne_new stands.registered new.1⟩

/-- The pipelines that were registered, with the numbers of the changes. -/
def registrations (changes : List RegistryChange) : List (Nat × Pipeline) :=
  changes.zipIdx.filterMap fun (change, number) => change.pipeline?.map (number, ·)

/-- The registered pipelines that stand no more. -/
def ended (changes : List RegistryChange) : List (Nat × Pipeline) :=
  (registrations changes).filter fun (number, pipeline) =>
    lastAbout? changes pipeline.name ≠ some number

theorem mem_registrations_iff :
    (number, pipeline) ∈ registrations changes ↔
      changes[number]? = some (.registered pipeline) := by
  simp only [registrations, List.mem_filterMap, Prod.exists, List.mk_mem_zipIdx_iff_getElem?,
    Option.map_eq_some_iff, pipeline?_eq_some_iff]
  constructor
  · rintro ⟨_, _, found, _, rfl, same⟩
    obtain ⟨rfl, rfl⟩ := Prod.mk.inj same
    exact found
  · exact fun found => ⟨_, _, found, _, rfl, rfl⟩

theorem mem_ended_iff : (number, pipeline) ∈ ended changes ↔ Ended changes number pipeline := by
  rw [ended, List.mem_filter, mem_registrations_iff, decide_eq_true_iff, Ended, standing_iff]
  exact and_congr_right fun registered => not_congr (and_iff_right registered).symm

theorem nodup_ended (changes : List RegistryChange) : (ended changes).Nodup := by
  have numbered : changes.zipIdx.Nodup := (List.nodup_zipIdx_map_snd changes).of_map
  refine (numbered.filterMap ?_).filter _
  rintro ⟨change, number⟩ ⟨other, place⟩ ⟨_, pipeline⟩ first second
  simp only [Option.mem_def, Option.map_eq_some_iff, pipeline?_eq_some_iff] at first second
  obtain ⟨_, rfl, same⟩ := first
  obtain ⟨_, rfl, again⟩ := second
  obtain ⟨rfl, rfl⟩ := Prod.mk.inj same
  obtain ⟨rfl, rfl⟩ := Prod.mk.inj again
  rfl

end RegistryChange

/-! ### Using a registry -/

/-- What can be done with a registry. A clear may be done in one go; or it begins with the names
that are there, and goes on, one name at a time, whatever happens in between. -/
inductive RegistryStep where
  | register (pipeline : Pipeline)
  | remove (name : String)
  | lookUp (name : String)
  | clear
  | beginClear
  /-- The clear of a number, in the order in which they began, removes its next name. -/
  | continueClear (clear : Nat)

/-- The pipeline that is registered, if one is. -/
def RegistryStep.pipeline? : RegistryStep → Option Pipeline
  | register pipeline => some pipeline
  | _ => none

/-- A registry in use, with its ledger. -/
structure RegistryUse where
  registry : PipelineRegistry := .empty
  /-- The names that each clear that began has still to remove. -/
  clears : List (List String) := []
  /-- What was done about names, in order. -/
  changes : List RegistryChange := []
  /-- The pipelines that were taken down, in order, each with the number of the change that was the
  last about its name until then. -/
  destroyed : List (Option Nat × Pipeline) := []
  tally : StageTally := {}

/-- How many positions of a pipeline a stage stands at. -/
def Pipeline.positionsOf (pipeline : Pipeline) (identity : Nat) : Nat :=
  pipeline.stages.countP (·.stage.identity = identity)

theorem Pipeline.count_destroyed (pipeline : Pipeline) (identity : Nat) :
    pipeline.destroyed.count identity = pipeline.positionsOf identity := by
  rw [destroyed, positionsOf, List.count, List.countP_map]
  refine List.countP_congr fun bound _ => ?_
  simp

namespace RegistryUse

open RegistryChange

/-- What is left when something was done about a name. The pipeline that leaves is taken down. -/
def enter (use : RegistryUse) (change : RegistryChange)
    (outcome : PipelineRegistry × Option Pipeline) : RegistryUse :=
  { use with
    registry := outcome.1
    changes := use.changes ++ [change]
    destroyed := use.destroyed ++ outcome.2.toList.map (lastAbout? use.changes change.name, ·)
    tally := use.tally.afterDestroying outcome.2.toList }

def register (use : RegistryUse) (pipeline : Pipeline) : RegistryUse :=
  use.enter (.registered pipeline) (use.registry.register pipeline)

def remove (use : RegistryUse) (name : String) : RegistryUse :=
  use.enter (.removed name) (use.registry.remove name)

/-- One step. -/
def step (use : RegistryUse) : RegistryStep → RegistryUse
  | .register pipeline => use.register pipeline
  | .remove name => use.remove name
  | .lookUp _ => use
  | .clear => use.registry.names.foldl remove use
  | .beginClear => { use with clears := use.clears ++ [use.registry.names] }
  | .continueClear clear =>
    match use.clears[clear]? with
    | some (name :: rest) => { use.remove name with clears := use.clears.set clear rest }
    | _ => use

/-- A registry after its use from the beginning. -/
def after (history : List RegistryStep) : RegistryUse := history.foldl step {}

/-- How often the pipeline was taken down that was registered by the change of a number. -/
def timesDestroyed (use : RegistryUse) (number : Nat) : Nat :=
  (use.destroyed.map Prod.fst).count (some number)

/-! ### The registry and its ledger -/

/-- A registry agrees with its ledger. -/
structure Consistent (use : RegistryUse) : Prop where
  /-- A name has the pipeline that stands. -/
  found : ∀ name pipeline, use.registry.get? name = some pipeline ↔
    ∃ number, pipeline.name = name ∧ Standing use.changes number pipeline
  /-- What was taken down are the pipelines that stand no more. -/
  calls : ∀ call, call ∈ use.destroyed ↔
    ∃ number, call.1 = some number ∧ Ended use.changes number call.2
  /-- None of them was taken down twice. -/
  once : (use.destroyed.map Prod.fst).Nodup
  /-- Their stages were told. -/
  told : use.tally.destroys = use.destroyed.flatMap (·.2.destroyed)

variable {use : RegistryUse}

theorem consistent_empty : Consistent {} where
  found _ _ := ⟨nofun, fun ⟨_, _, stands⟩ => nomatch stands.registered⟩
  calls _ := ⟨nofun, fun ⟨_, _, ended⟩ => nomatch ended.1⟩
  once := .nil
  told := rfl

/-- Which clears are going on does not matter. -/
theorem Consistent.withClears (consistent : use.Consistent) (clears : List (List String)) :
    Consistent { use with clears } :=
  ⟨consistent.found, consistent.calls, consistent.once, consistent.told⟩

/-- A pipeline that stands was not taken down. -/
theorem Consistent.not_mem_destroyed (consistent : use.Consistent) {number : Nat}
    {pipeline : Pipeline} (stands : Standing use.changes number pipeline) :
    some number ∉ use.destroyed.map Prod.fst := by
  intro mem
  obtain ⟨call, called, numbered⟩ := List.mem_map.mp mem
  obtain ⟨place, placed, registered, no⟩ := (consistent.calls call).mp called
  obtain rfl : number = place := Option.some.inj (numbered.symm.trans placed)
  have samePipeline := Option.some.inj (stands.registered.symm.trans registered)
  exact no (RegistryChange.registered.inj samePipeline ▸ stands)

/-- What leaves with a change about a name is what stands for it, if anything does. -/
theorem Consistent.mem_leaving_iff (consistent : use.Consistent) {name : String}
    {call : Option Nat × Pipeline} :
    call ∈ (use.registry.get? name).toList.map (lastAbout? use.changes name, ·) ↔
      ∃ number, call.1 = some number ∧ Standing use.changes number call.2 ∧
        name = call.2.name := by
  constructor
  · intro mem
    obtain ⟨pipeline, left, rfl⟩ := List.mem_map.mp mem
    obtain ⟨number, rfl, stands⟩ :=
      (consistent.found name pipeline).mp (Option.mem_toList.mp left)
    exact ⟨number, (standing_iff.mp stands).2, stands, rfl⟩
  · rintro ⟨number, numbered, stands, rfl⟩
    have found := (consistent.found _ call.2).mpr ⟨number, rfl, stands⟩
    refine List.mem_map.mpr ⟨call.2, Option.mem_toList.mpr found, ?_⟩
    rw [(standing_iff.mp stands).2, ← numbered]

/-- **One change** keeps a registry in agreement with its ledger, if it gives its name the pipeline
that it registers, and nothing else, and the pipeline that had the name leaves. -/
theorem Consistent.enter (consistent : use.Consistent) {change : RegistryChange}
    {registry : PipelineRegistry}
    (changed : ∀ name, registry.get? name =
      if name = change.name then change.pipeline? else use.registry.get? name) :
    (use.enter change (registry, use.registry.get? change.name)).Consistent := by
  refine ⟨fun name pipeline => ?_, fun call => ?_, ?_, ?_⟩
  · refine Iff.trans ?_ exists_standing_append_singleton.symm
    show registry.get? name = some pipeline ↔ _
    rw [changed]
    split
    · exact pipeline?_eq_some_iff
    · exact consistent.found name pipeline
  · simp only [RegistryUse.enter, List.mem_append, consistent.calls, consistent.mem_leaving_iff,
      ended_append_singleton, and_or_left, exists_or]
  · rw [RegistryUse.enter, List.map_append]
    refine List.nodup_append.mpr ⟨consistent.once, ?_, ?_⟩
    · cases use.registry.get? change.name <;> simp
    · -- what leaves stood until now, so it was not taken down before
      rintro _ before _ leaving rfl
      obtain ⟨call, left, rfl⟩ := List.mem_map.mp leaving
      obtain ⟨number, numbered, stands, -⟩ := consistent.mem_leaving_iff.mp left
      exact consistent.not_mem_destroyed stands (numbered ▸ before)
  · rw [RegistryUse.enter, StageTally.afterDestroying, List.flatMap_append, consistent.told,
      List.flatMap_map]

theorem Consistent.register (consistent : use.Consistent) (pipeline : Pipeline) :
    (use.register pipeline).Consistent :=
  consistent.enter fun name => NameMap.get?_insert _ _ _ name

theorem Consistent.remove (consistent : use.Consistent) (name : String) :
    (use.remove name).Consistent :=
  consistent.enter fun other => NameMap.get?_erase _ _ other

/-- **One step** keeps a registry in agreement with its ledger. -/
theorem Consistent.step (consistent : use.Consistent) (step : RegistryStep) :
    (use.step step).Consistent := by
  cases step with
  | register pipeline => exact consistent.register pipeline
  | remove name => exact consistent.remove name
  | lookUp name => exact consistent
  | clear =>
      exact List.foldlRecOn use.registry.names _ consistent fun _ kept name _ => kept.remove name
  | beginClear => exact consistent.withClears _
  | continueClear clear =>
      rw [RegistryUse.step]
      split
      · next name rest _ => exact (consistent.remove name).withClears _
      · exact consistent

/-- **Whatever was done with a registry**, it agrees with its ledger. -/
theorem Consistent.after (history : List RegistryStep) : (RegistryUse.after history).Consistent :=
  List.foldlRecOn history _ consistent_empty fun _ kept step _ => kept.step step

/-! ### What a registry did -/

/-- Removing names one after the other leaves what removing them in one go leaves, and takes the
same pipelines down. -/
theorem foldl_remove (use : RegistryUse) (names : List String) :
    (names.foldl remove use).registry = (use.registry.removeAll names).1 ∧
      (names.foldl remove use).destroyed.map Prod.snd =
        use.destroyed.map Prod.snd ++ (use.registry.removeAll names).2 := by
  induction names generalizing use with
  | nil => exact ⟨rfl, (List.append_nil _).symm⟩
  | cons name rest ih =>
      obtain ⟨registry, destroyed⟩ := ih (use.remove name)
      refine ⟨registry, destroyed.trans ?_⟩
      simp [remove, enter, PipelineRegistry.removeAll, Function.comp_def]

/-- Removing a name registers nothing. -/
theorem registered_remove (use : RegistryUse) (name : String) :
    (use.remove name).changes.filterMap pipeline? = use.changes.filterMap pipeline? := by
  rw [remove, enter, List.filterMap_append]
  exact List.append_nil _

/-- The ledger has the registrations that were asked for, in order. -/
theorem registered_step (use : RegistryUse) (step : RegistryStep) :
    (use.step step).changes.filterMap pipeline? =
      use.changes.filterMap pipeline? ++ step.pipeline?.toList := by
  cases step with
  | register pipeline => exact List.filterMap_append
  | remove name => exact (use.registered_remove name).trans (List.append_nil _).symm
  | lookUp name | beginClear => exact (List.append_nil _).symm
  | clear =>
      refine Eq.trans ?_ (List.append_nil _).symm
      exact List.foldlRecOn (motive := fun left : RegistryUse =>
          left.changes.filterMap pipeline? = use.changes.filterMap pipeline?)
        use.registry.names remove rfl
        fun left same name _ => (left.registered_remove name).trans same
  | continueClear clear =>
      refine Eq.trans ?_ (List.append_nil _).symm
      rw [RegistryUse.step]
      split
      · exact use.registered_remove _
      · rfl

theorem registered_after (history : List RegistryStep) :
    (after history).changes.filterMap pipeline? = history.filterMap RegistryStep.pipeline? := by
  induction history using List.reverseRecOn with
  | nil => rfl
  | append_singleton history step ih =>
      rw [after, List.foldl_append, List.filterMap_append, ← ih]
      refine ((after history).registered_step step).trans (congrArg _ ?_)
      cases step <;> rfl

namespace Consistent

variable (consistent : use.Consistent)

include consistent

/-- The names that a registry has are those of the pipelines that stand. -/
theorem mem_names_iff {name : String} :
    name ∈ use.registry.names ↔
      ∃ number pipeline, pipeline.name = name ∧ Standing use.changes number pipeline := by
  rw [PipelineRegistry.names, NameMap.mem_names_iff, NameMap.contains,
    Option.isSome_iff_exists, exists_comm]
  exact exists_congr fun pipeline => consistent.found name pipeline

theorem timesDestroyed_of_standing {number : Nat} {pipeline : Pipeline}
    (stands : Standing use.changes number pipeline) : use.timesDestroyed number = 0 :=
  List.count_eq_zero.mpr (consistent.not_mem_destroyed stands)

/-- A pipeline that stands no more was taken down once. -/
theorem timesDestroyed_of_ended {number : Nat} {pipeline : Pipeline}
    (ended : Ended use.changes number pipeline) : use.timesDestroyed number = 1 :=
  List.count_eq_one_of_mem consistent.once
    (List.mem_map.mpr ⟨(some number, pipeline), (consistent.calls _).mpr ⟨number, rfl, ended⟩, rfl⟩)

/-- What was taken down are the pipelines that stand no more, in some order. -/
theorem destroyed_perm :
    use.destroyed.Perm ((ended use.changes).map (Prod.map some id)) := by
  have distinct : ((ended use.changes).map (Prod.map some id)).Nodup :=
    (nodup_ended use.changes).map (Function.Injective.prodMap (fun _ _ => Option.some.inj)
      Function.injective_id)
  refine (List.perm_ext_iff_of_nodup consistent.once.of_map distinct).mpr fun call => ?_
  rw [consistent.calls, List.mem_map]
  constructor
  · rintro ⟨number, numbered, gone⟩
    exact ⟨(number, call.2), mem_ended_iff.mpr gone, Prod.ext numbered.symm rfl⟩
  · rintro ⟨⟨number, pipeline⟩, mem, rfl⟩
    exact ⟨number, rfl, mem_ended_iff.mp mem⟩

/-- How often a stage was destroyed. -/
theorem destroysOf_eq (identity : Nat) :
    use.tally.destroysOf identity =
      ((ended use.changes).map fun (_, pipeline) => pipeline.positionsOf identity).sum := by
  rw [StageTally.destroysOf, consistent.told, List.count_flatMap,
    (consistent.destroyed_perm.map _).sum_nat, List.map_map]
  congr 1
  refine List.map_congr_left fun call _ => ?_
  exact call.2.count_destroyed identity

end Consistent

/-- **The life cycle of registered pipelines.** Whatever is done with a registry: a name has the
pipeline that was registered under it last, as long as nothing was done about the name since. The
names are listed in order, once each, and counted. A pipeline that stands was not taken down; one
that stands no more was taken down once; and no others were. So a stage was destroyed as many times
as there are positions at which it stands in the pipelines that stand no more. -/
theorem life_cycle (history : List RegistryStep) :
    let use := RegistryUse.after history
    use.changes.filterMap pipeline? = history.filterMap RegistryStep.pipeline? ∧
      (∀ name pipeline, use.registry.get? name = some pipeline ↔
        ∃ number, pipeline.name = name ∧ Standing use.changes number pipeline) ∧
      (use.registry.names.Pairwise (· < ·) ∧
        (∀ name, name ∈ use.registry.names ↔
          ∃ number pipeline, pipeline.name = name ∧ Standing use.changes number pipeline) ∧
        use.registry.size = use.registry.names.length) ∧
      (∀ number pipeline, use.changes[number]? = some (.registered pipeline) →
        (Standing use.changes number pipeline → use.timesDestroyed number = 0) ∧
          (¬ Standing use.changes number pipeline → use.timesDestroyed number = 1)) ∧
      (∀ call ∈ use.destroyed, ∃ number, call.1 = some number ∧
        use.changes[number]? = some (.registered call.2)) ∧
      ((use.step .clear).registry = use.registry.clear.1 ∧
        (use.step .clear).destroyed.map Prod.snd =
          use.destroyed.map Prod.snd ++ use.registry.clear.2) ∧
      ∀ identity, use.tally.destroysOf identity =
        ((ended use.changes).map fun (_, pipeline) => pipeline.positionsOf identity).sum := by
  intro use
  have consistent : use.Consistent := .after history
  refine ⟨registered_after history, consistent.found,
    ⟨NameMap.sorted_names _, fun name => consistent.mem_names_iff, (NameMap.length_names _).symm⟩,
    fun number pipeline registered => ⟨consistent.timesDestroyed_of_standing,
      fun no => consistent.timesDestroyed_of_ended ⟨registered, no⟩⟩,
    fun call mem => ?_, use.foldl_remove use.registry.names, consistent.destroysOf_eq⟩
  obtain ⟨number, numbered, registered, -⟩ := (consistent.calls call).mp mem
  exact ⟨number, numbered, registered⟩

end RegistryUse

/-- A pipeline of stages that do nothing. -/
def Pipeline.idle (name : String) (identities : List Nat) : Pipeline where
  config := { name, connectionName := "main" }
  stages := identities.map fun identity =>
    ⟨{ name := "stage", type := "idle" }, .idle identity "stage"⟩
  outputs := .empty
  mergePlan := none

/-- A clear begins, and comes to a name when another pipeline has taken it. -/
def RegistryUse.belated : List RegistryStep :=
  [.register (.idle "orders" [0, 0]), .register (.idle "stock" [0, 1]), .beginClear,
    .register (.idle "orders" [0]), .continueClear 0, .lookUp "stock"]

/-- The pipeline that was replaced and the one that took its place are both taken down, and the
third still stands. -/
theorem RegistryUse.belated_destroys :
    let use := RegistryUse.after belated
    use.registry.names = ["stock"] ∧ use.timesDestroyed 0 = 1 ∧ use.timesDestroyed 1 = 0 ∧
      use.timesDestroyed 2 = 1 ∧ use.tally.destroysOf 0 = 3 ∧ use.tally.destroysOf 1 = 0 := by
  intro use
  obtain ⟨-, -, -, times, -, -, destroys⟩ := life_cycle belated
  have replaced : ¬ RegistryChange.Standing use.changes 0 (.idle "orders" [0, 0]) := fun stands =>
    stands.since 2 (.registered (.idle "orders" [0])) (by decide) rfl rfl
  have cleared : ¬ RegistryChange.Standing use.changes 2 (.idle "orders" [0]) := fun stands =>
    stands.since 3 (.removed "orders") (by decide) rfl rfl
  have stands : RegistryChange.Standing use.changes 1 (.idle "stock" [0, 1]) :=
    RegistryChange.standing_iff.mpr ⟨rfl, by decide⟩
  exact ⟨rfl, (times 0 _ rfl).2 replaced, (times 1 _ rfl).1 stands, (times 2 _ rfl).2 cleared,
    (destroys 0).trans rfl, (destroys 1).trans rfl⟩

end DocPipeline
