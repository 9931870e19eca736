import Mathlib.Data.List.Basic

/-!
# First faults

Work that may fail goes on step by step, and the first step that fails decides how it ends. So
working through a list succeeds if it succeeds item by item, and it fails as the first item does
that is at fault.

## Main definitions

* `FirstFault`: the error of the first item of a list that is at fault.

## Main results

* `bind_eq_ok_iff`, `bind_eq_error_iff`: two steps, one after the other.
* `exists_mapM_eq_ok_iff`, `mapM_eq_error_iff`: working through a list.
-/

namespace DocPipeline

variable {α β ε : Type} {fine : α → Prop} {fault : α → ε → Prop} {act : α → Except ε β}

/-! ### Two steps -/

/-- Two steps succeed if both do. -/
theorem bind_eq_ok_iff {first : Except ε α} {next : α → Except ε β} {result : β} :
    first >>= next = .ok result ↔ ∃ middle, first = .ok middle ∧ next middle = .ok result := by
  cases first with
  | error error => exact ⟨nofun, nofun⟩
  | ok middle =>
      constructor
      · intro later
        exact ⟨middle, rfl, later⟩
      · rintro ⟨other, same, later⟩
        obtain rfl := Except.ok.inj same
        exact later

/-- Two steps fail if the first one does, or the second one after the first has succeeded. -/
theorem bind_eq_error_iff {first : Except ε α} {next : α → Except ε β} {error : ε} :
    first >>= next = .error error ↔
      first = .error error ∨ ∃ middle, first = .ok middle ∧ next middle = .error error := by
  cases first with
  | error other =>
      constructor
      · intro fails
        obtain rfl := Except.error.inj fails
        exact .inl rfl
      · rintro (same | ⟨middle, impossible, -⟩)
        · obtain rfl := Except.error.inj same
          rfl
        · cases impossible
  | ok middle =>
      constructor
      · intro later
        exact .inr ⟨middle, rfl, later⟩
      · rintro (impossible | ⟨other, same, later⟩)
        · cases impossible
        · obtain rfl := Except.ok.inj same
          exact later

/-! ### The first fault -/

/-- The error of the first item of a list that is at fault. All items in front of it are fine. -/
def FirstFault (fine : α → Prop) (fault : α → ε → Prop) (items : List α) (error : ε) : Prop :=
  ∃ before item behind, items = before ++ item :: behind ∧
    (∀ earlier ∈ before, fine earlier) ∧ fault item error

theorem not_firstFault_nil {error : ε} : ¬ FirstFault fine fault [] error := by
  rintro ⟨before, item, behind, parts, -⟩
  cases before <;> cases parts

/-- The first fault is that of the first item, or it comes later. -/
theorem firstFault_cons_iff {item : α} {rest : List α} {error : ε} :
    FirstFault fine fault (item :: rest) error ↔
      fault item error ∨ fine item ∧ FirstFault fine fault rest error := by
  constructor
  · rintro ⟨before, found, behind, parts, passed, faulty⟩
    cases before with
    | nil =>
        obtain ⟨rfl, -⟩ := List.cons.inj parts
        exact .inl faulty
    | cons first before =>
        obtain ⟨rfl, rest⟩ := List.cons.inj parts
        obtain ⟨fineFirst, passed⟩ := List.forall_mem_cons.mp passed
        exact .inr ⟨fineFirst, before, found, behind, rest, passed, faulty⟩
  · rintro (faulty | ⟨fineFirst, before, found, behind, rfl, passed, faulty⟩)
    · exact ⟨[], item, rest, rfl, nofun, faulty⟩
    · exact ⟨item :: before, found, behind, rfl, List.forall_mem_cons.mpr ⟨fineFirst, passed⟩,
        faulty⟩

/-! ### Working through a list -/

/-- Working through a list succeeds if all items are fine. -/
theorem exists_mapM_eq_ok_iff (accepts : ∀ item, (∃ result, act item = .ok result) ↔ fine item)
    {items : List α} :
    (∃ results, items.mapM act = .ok results) ↔ ∀ item ∈ items, fine item := by
  induction items with
  | nil => exact ⟨fun _ => nofun, fun _ => ⟨[], rfl⟩⟩
  | cons item rest ih =>
      rw [List.forall_mem_cons, ← ih, ← accepts, List.mapM_cons]
      simp only [bind_eq_ok_iff]
      constructor
      · rintro ⟨_, result, first, results, later, -⟩
        exact ⟨⟨result, first⟩, results, later⟩
      · rintro ⟨⟨result, first⟩, results, later⟩
        exact ⟨result :: results, result, first, results, later, rfl⟩

/-- Working through a list ends with the first fault. -/
theorem mapM_eq_error_iff (accepts : ∀ item, (∃ result, act item = .ok result) ↔ fine item)
    (refuses : ∀ item error, act item = .error error ↔ fault item error) {items : List α}
    {error : ε} : items.mapM act = .error error ↔ FirstFault fine fault items error := by
  induction items with
  | nil => exact ⟨nofun, fun first => (not_firstFault_nil first).elim⟩
  | cons item rest ih =>
      rw [firstFault_cons_iff, ← ih, ← accepts, ← refuses, List.mapM_cons, bind_eq_error_iff]
      simp only [bind_eq_error_iff]
      refine or_congr_right ⟨?_, ?_⟩
      · rintro ⟨result, first, later | ⟨_, -, impossible⟩⟩
        · exact ⟨⟨result, first⟩, later⟩
        · cases impossible
      · rintro ⟨⟨result, first⟩, later⟩
        exact ⟨result, first, .inl later⟩

end DocPipeline
