import DocPipeline.Proofs.Variables.Acyclic

/-!
# Resolving what was resolved

Resolved variables are settled, so that resolving them again can only fail, and only for a cycle.
With placeholders this happens: an expansion may put a dollar sign in front of a name in braces, and
so make a reference that was not there when cycles were looked for. It is the case exactly if the
value of a variable refers to the variable itself, and never for variables that are tidy.

## Main results

* `Variables.findCycle_of_selfless`: settled variables have a cycle only if one refers to itself.
* `Variables.forRun_again_iff`: when resolved variables are resolved to themselves.
-/

namespace DocPipeline.Variables

open Placeholder (TidyValues)

variable {expander : Expander} {vars start : Variables}

/-- No value refers to its own variable. -/
def Selfless (expander : Expander) (vars : Variables) : Prop :=
  ∀ name value, vars.get? name = some value → name ∉ expander.references value

/-- A variable whose value refers to it is on a cycle. -/
theorem selfless_of_findCycle (acyclic : expander.findCycle vars = none) :
    Selfless expander vars := by
  intro name value found refers
  have circle : expander.Refers vars name name :=
    ⟨value, found, refers, NameMap.mem_names_of_get? found⟩
  exact Expander.findCycle_eq_none_iff.mp acyclic name (.single circle)

/-- **Settled variables have a cycle only if one refers to itself.** -/
theorem findCycle_of_selfless (settled : Settled .placeholders vars)
    (selfless : Selfless .placeholders vars) : Expander.placeholders.findCycle vars = none := by
  rw [Expander.findCycle_eq_none_iff]
  intro name circle
  obtain ⟨next, ⟨value, found, refers, isKnown⟩, -⟩ := Relation.TransGen.head'_iff.mp circle
  obtain ⟨other, own, isOwn, itself⟩ :=
    Placeholder.exists_selfReference_of_expand_eq (settled name value found).1 refers isKnown
  exact selfless other own isOwn itself

/-- The passes end with the variables after some of them. -/
theorem exists_afterPasses_of_settle {passes done : Nat} {changing : List String}
    {resolved : Variables}
    (ends : settle .placeholders passes changing (afterPasses start done) = .ok resolved) :
    ∃ all, resolved = afterPasses start all := by
  induction passes generalizing done changing with
  | zero => cases ends
  | succ passes ih =>
      rcases settle_succ .placeholders passes changing (afterPasses start done) with
        ⟨name, -, overflows⟩ | ⟨-, stops⟩ | ⟨-, changed, onward⟩
      · rw [overflows] at ends
        cases ends
      · rw [stops] at ends
        exact ⟨done, (Except.ok.inj ends).symm⟩
      · rw [onward, ← afterPasses] at ends
        exact ih ends

/-- **Tidy variables make no references of their own.** -/
theorem selfless_of_tidy {resolved : Variables} (tidy : TidyValues start)
    (ends : resolve .placeholders start = .ok resolved) : Selfless .placeholders resolved := by
  rw [resolve] at ends
  cases noCycle : Expander.placeholders.findCycle start with
  | some cycle =>
      rw [noCycle] at ends
      cases ends
  | none =>
      rw [noCycle] at ends
      have acyclic := Expander.findCycle_eq_none_iff.mp noCycle
      have settles : settle .placeholders maxPasses [] (afterPasses start 0) = .ok resolved := ends
      obtain ⟨all, rfl⟩ := exists_afterPasses_of_settle settles
      intro name value found refers
      have isKnown := NameMap.mem_names_of_get? found
      exact (far_afterPasses tidy all).selfless acyclic (reachAfter_pos all)
        ⟨value, found, refers, isKnown⟩

/-- **Resolving what was resolved.** Resolved variables are resolved to themselves exactly if no
value refers to its own variable; otherwise they are refused for a cycle. For variables that were
tidy from the start, no value does. -/
theorem forRun_again_iff {configured params resolved : Variables}
    (ends : forRun .placeholders true configured params = .ok resolved) :
    (forRun .placeholders true resolved .empty = .ok resolved ↔
        Selfless .placeholders resolved) ∧
      (¬Selfless .placeholders resolved →
        ∃ cycle, forRun .placeholders true resolved .empty = .error (.variableCycle cycle)) ∧
      (TidyValues (configured.overlay params) → Selfless .placeholders resolved) := by
  have settled := (settled_of_forRun ends).1
  have again : forRun .placeholders true resolved .empty = resolve .placeholders resolved := rfl
  have first : resolve .placeholders (configured.overlay params) = .ok resolved := ends
  rw [again, resolve_of_settled settled]
  cases found : Expander.placeholders.findCycle resolved with
  | none =>
      have selfless := selfless_of_findCycle found
      exact ⟨iff_of_true rfl selfless, fun selfish => absurd selfless selfish, fun _ => selfless⟩
  | some cycle =>
      refine ⟨iff_of_false nofun fun selfless => ?_, fun _ => ⟨cycle, rfl⟩,
        fun tidy => selfless_of_tidy tidy first⟩
      rw [findCycle_of_selfless settled selfless] at found
      cases found

/-- Where no expansion makes a reference, resolving again changes nothing. -/
theorem forRun_again_of_plain :
    let resolved : Variables := .ofList [("a", "v"), ("b", "v")]
    forRun .placeholders true (.ofList [("a", "$\x7bb\x7d"), ("b", "v")]) .empty = .ok resolved ∧
      forRun .placeholders true resolved .empty = .ok resolved := by
  have ends : forRun .placeholders true (.ofList [("a", "$\x7bb\x7d"), ("b", "v")]) .empty =
      .ok (.ofList [("a", "v"), ("b", "v")]) := by cbv
  exact ⟨ends, (forRun_again_iff ends).1.mpr (selfless_of_findCycle (by cbv))⟩

/-- A dollar sign that is put in front of a name in braces makes a reference: these variables are
resolved, but what they are resolved to is refused. -/
theorem forRun_again_spliced :
    let resolved : Variables := .ofList [("a", "$\x7ba\x7d"), ("p", "$")]
    forRun .placeholders true (.ofList [("a", "$\x7bp\x7d\x7ba\x7d"), ("p", "$")]) .empty =
        .ok resolved ∧
      forRun .placeholders true resolved .empty = .error (.variableCycle ["a", "a"]) := by
  constructor
  · cbv
  · cbv

end DocPipeline.Variables
