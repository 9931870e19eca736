import Mathlib.Data.List.Induction

/-!
# Last positions in lists

Where several items of a list meet a condition, the last one counts: the stage that wrote a slot
last, or what was done last about a name.

## Main definitions

* `lastWhere?`: the last position of an item that meets a condition.

## Main results

* `lastWhere?_append_singleton`: one more item.
* `lastWhere?_eq_some_iff`: which position it is.
-/

namespace DocPipeline

variable {α : Type} {holds : α → Bool}

/-- An item of a list with one more item is an item of the list, or it is the new one. -/
theorem getElem?_append_singleton_iff {items : List α} {last item : α} {position : Nat} :
    (items ++ [last])[position]? = some item ↔
      items[position]? = some item ∨ position = items.length ∧ last = item := by
  obtain before | rfl | behind := Nat.lt_trichotomy position items.length
  · rw [List.getElem?_append_left before]
    exact ⟨.inl, fun found => found.resolve_right fun new => Nat.ne_of_lt before new.1⟩
  · simp
  · have beyond : ∀ {more : List α}, more.length ≤ items.length + 1 → more[position]? = none :=
      fun few => List.getElem?_eq_none (Nat.le_trans few behind)
    rw [beyond (List.length_append ▸ Nat.le_refl _), beyond (Nat.le_succ _)]
    simp [Nat.ne_of_gt behind]

/-- The last position of an item that meets a condition. -/
def lastWhere? (holds : α → Bool) (items : List α) : Option Nat :=
  (items.zipIdx.filter (holds ·.1)).getLast?.map (·.2)

@[simp] theorem lastWhere?_nil : lastWhere? holds [] = none := rfl

/-- One more item is the last that meets the condition, if it meets it. -/
theorem lastWhere?_append_singleton (items : List α) (item : α) :
    lastWhere? holds (items ++ [item]) =
      if holds item then some items.length else lastWhere? holds items := by
  rw [lastWhere?, List.zipIdx_append, List.filter_append, List.getLast?_append,
    List.zipIdx_singleton, List.filter_cons, List.filter_nil, Nat.zero_add]
  cases met : holds item with
  | true => simp
  | false => simp [lastWhere?]

/-- The item at the last position meets the condition, and no item behind it does. -/
theorem lastWhere?_eq_some_iff {items : List α} {position : Nat} :
    lastWhere? holds items = some position ↔
      (∃ item, items[position]? = some item ∧ holds item = true) ∧
        ∀ later item, position < later → items[later]? = some item → holds item = false := by
  induction items using List.reverseRecOn with
  | nil => simp
  | append_singleton items last ih =>
      have inside {position : Nat} {item : α} (found : items[position]? = some item) :
          position < items.length := (List.getElem?_eq_some_iff.mp found).1
      simp only [lastWhere?_append_singleton, getElem?_append_singleton_iff]
      cases met : holds last with
      | true =>
          -- the new item is the last, and nothing stands behind it
          rw [if_pos rfl]
          constructor
          · intro same
            obtain rfl := Option.some.inj same
            refine ⟨⟨last, .inr ⟨rfl, rfl⟩, met⟩, fun later item behind found => ?_⟩
            obtain old | ⟨rfl, -⟩ := found
            · exact absurd (inside old) (Nat.lt_asymm behind)
            · exact absurd behind (Nat.lt_irrefl _)
          · rintro ⟨⟨item, old | ⟨rfl, -⟩, -⟩, nothing⟩
            · have spared := nothing items.length last (inside old) (.inr ⟨rfl, rfl⟩)
              rw [met] at spared
              cases spared
            · rfl
      | false =>
          -- the new item does not count, so the position is among the older ones
          rw [if_neg Bool.false_ne_true, ih]
          constructor
          · rintro ⟨⟨item, found, holdsItem⟩, nothing⟩
            refine ⟨⟨item, .inl found, holdsItem⟩, fun later other behind there => ?_⟩
            obtain old | ⟨-, rfl⟩ := there
            · exact nothing later other behind old
            · exact met
          · rintro ⟨⟨item, old | ⟨-, rfl⟩, holdsItem⟩, nothing⟩
            · exact ⟨⟨item, old, holdsItem⟩,
                fun later other behind there => nothing later other behind (.inl there)⟩
            · rw [met] at holdsItem
              cases holdsItem

end DocPipeline
