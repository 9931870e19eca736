import DocPipeline.Proofs.Variables.Placeholder

/-!
# Tidy texts

In a tidy text every dollar sign begins a placeholder. Tidy texts put together are tidy, and no
piece runs over a seam, so that the pieces of an expansion are the pieces of what was put in. What
an expansion refers to, and what becomes of it when it is expanded again, can be read off the pieces
of the text that was expanded.

## Main definitions

* `Placeholder.Tidy`: every dollar sign begins a placeholder.
* `Placeholder.Piece.opened`: the pieces that expansion puts in the place of a piece.

## Main results

* `Placeholder.Tidy.split_append`: the pieces of texts put together.
* `Placeholder.split_expand`: the pieces of an expansion.
* `Placeholder.references_expand`: what an expansion refers to.
* `Placeholder.expand_expand`: expanding what was expanded.
-/

namespace DocPipeline.Placeholder

/-- Every dollar sign of a text begins a placeholder. -/
def Tidy (cs : List Char) : Prop :=
  ∀ before after, cs = before ++ '$' :: after → ∃ found, leading? ('$' :: after) = some found

/-! ### Putting tidy texts together -/

theorem tidy_nil : Tidy [] := by
  intro before after whole
  simp at whole

/-- What stands at the end of a tidy text is tidy. -/
theorem Tidy.of_append (front : List Char) {cs : List Char} (tidy : Tidy (front ++ cs)) :
    Tidy cs := by
  rintro before after rfl
  exact tidy (front ++ before) after (List.append_assoc _ _ _).symm

/-- **Tidy texts put together are tidy.** -/
theorem Tidy.append {first second : List Char} (tidyFirst : Tidy first) (tidySecond : Tidy second) :
    Tidy (first ++ second) := by
  intro before after whole
  rcases List.append_eq_append_iff.mp whole with ⟨extra, -, starts⟩ | ⟨extra, ends, starts⟩
  · exact tidySecond extra after starts
  · cases extra with
    | nil => exact tidySecond [] after starts.symm
    | cons d extra =>
        obtain ⟨rfl, rfl⟩ := List.cons.inj starts
        obtain ⟨⟨name, rest⟩, leads⟩ := tidyFirst before extra ends
        exact ⟨_, leading?_append leads second⟩

theorem tidy_flatMap {α : Type} {items : List α} {text : α → List Char}
    (tidy : ∀ item ∈ items, Tidy (text item)) : Tidy (items.flatMap text) := by
  induction items with
  | nil => exact tidy_nil
  | cons item items ih =>
      exact (tidy item List.mem_cons_self).append
        (ih fun other mem => tidy other (List.mem_cons_of_mem _ mem))

/-- **No piece runs over the end of a tidy text.** -/
theorem Tidy.split_append {first : List Char} (tidy : Tidy first) (second : List Char) :
    split (first ++ second) = split first ++ split second := by
  induction first using split_induction with
  | nil => rw [split_nil, List.nil_append, List.nil_append]
  | reference leads ih =>
      obtain ⟨-, rfl⟩ := eq_of_leading? leads
      rw [split_of_leading (leading?_append leads second), split_of_leading leads,
        ih (Tidy.of_append _ tidy), List.cons_append]
  | @char c cs plain ih =>
      have other : c ≠ '$' := by
        rintro rfl
        obtain ⟨found, leads⟩ := tidy [] cs rfl
        rw [plain] at leads
        cases leads
      have rest : Tidy cs := Tidy.of_append [c] tidy
      rw [List.cons_append, split_cons (leading?_of_ne_dollar other _), split_cons plain, ih rest,
        List.cons_append]

theorem split_flatMap {α : Type} {items : List α} {text : α → List Char}
    (tidy : ∀ item ∈ items, Tidy (text item)) :
    split (items.flatMap text) = items.flatMap fun item => split (text item) := by
  induction items with
  | nil => exact split_nil
  | cons item items ih =>
      rw [List.flatMap_cons, (tidy item List.mem_cons_self).split_append,
        ih fun other mem => tidy other (List.mem_cons_of_mem _ mem), List.flatMap_cons]

/-! ### Single pieces -/

theorem split_singleton (c : Char) : split [c] = [.char c] := by
  have plain : leading? [c] = none := by
    cases leads : leading? [c] with
    | none => rfl
    | some found =>
        obtain ⟨-, whole⟩ := eq_of_leading? leads
        simp [placeholder] at whole
  rw [split_cons plain, split_nil]

theorem tidy_singleton {c : Char} (other : c ≠ '$') : Tidy [c] := by
  intro before after whole
  have mem : '$' ∈ [c] := by
    rw [whole]
    exact List.mem_append_right _ List.mem_cons_self
  exact absurd (List.mem_singleton.mp mem).symm other

/-- A placeholder in front of the empty text. -/
theorem leading?_placeholder {name : List Char} (isName : IsName name) :
    leading? (placeholder name) = some (name, []) := by
  simpa using leading?_placeholder_append isName []

theorem split_placeholder {name : String} (isName : IsName name.toList) :
    split (placeholder name.toList) = [.reference name] := by
  rw [split_of_leading (leading?_placeholder isName), split_nil, String.ofList_toList]

theorem tidy_placeholder {name : List Char} (isName : IsName name) : Tidy (placeholder name) := by
  intro before after whole
  by_cases inFront : before = []
  · subst inFront
    rw [List.nil_append] at whole
    exact ⟨_, whole ▸ leading?_placeholder isName⟩
  · have padded : before ++ '$' :: after = placeholder name ++ [] := by
      rw [List.append_nil, whole]
    obtain ⟨between, -, behind⟩ := exists_of_append_dollar isName inFront padded
    simp at behind

/-- A dollar sign in a tidy text is no piece of its own. -/
theorem Tidy.ne_dollar {cs : List Char} (tidy : Tidy cs) {c : Char} (mem : .char c ∈ split cs) :
    c ≠ '$' := by
  induction cs using split_induction with
  | nil =>
      rw [split_nil] at mem
      cases mem
  | reference leads ih =>
      rw [split_of_leading leads] at mem
      obtain ⟨-, rfl⟩ := eq_of_leading? leads
      rcases List.mem_cons.mp mem with same | mem
      · cases same
      · exact ih (Tidy.of_append _ tidy) mem
  | @char d cs plain ih =>
      rw [split_cons plain] at mem
      rcases List.mem_cons.mp mem with same | mem
      · cases same
        rintro rfl
        obtain ⟨found, leads⟩ := tidy [] cs rfl
        rw [plain] at leads
        cases leads
      · exact ih (Tidy.of_append [d] tidy) mem

/-- **A text is tidy exactly if no dollar sign is a piece of its own.** -/
theorem tidy_iff {cs : List Char} : Tidy cs ↔ .char '$' ∉ split cs := by
  refine ⟨fun tidy mem => tidy.ne_dollar mem rfl, fun free => ?_⟩
  induction cs using split_induction with
  | nil => exact tidy_nil
  | reference leads ih =>
      rw [split_of_leading leads, List.mem_cons, not_or] at free
      obtain ⟨isName, rfl⟩ := eq_of_leading? leads
      exact (tidy_placeholder isName).append (ih free.2)
  | @char c cs plain ih =>
      rw [split_cons plain, List.mem_cons, not_or] at free
      have other : c ≠ '$' := by
        rintro rfl
        exact free.1 rfl
      exact (tidy_singleton other).append (ih free.2)

/-! ### Expansions -/

/-- All values of variables are tidy. -/
def TidyValues (vars : Variables) : Prop :=
  ∀ name value, vars.get? name = some value → Tidy value.toList

/-- Whether values are tidy can be computed. -/
theorem tidyValues_of_all {vars : Variables}
    (free : (vars.entries.all fun entry => decide (.char '$' ∉ pieces entry.2)) = true) :
    TidyValues vars := by
  intro name value found
  have listed := List.all_eq_true.mp free (name, value) (NameMap.mem_entries_of_get? found)
  exact tidy_iff.mpr (of_decide_eq_true listed)

/-- The pieces that expansion puts in the place of a piece. -/
def Piece.opened (vars : Variables) : Piece → List Piece
  | .char c => [.char c]
  | .reference name =>
    match vars.get? name with
    | some value => split value.toList
    | none => [.reference name]

variable {vars : Variables} {value : String}

/-- What is put in the place of a piece is tidy, and has the pieces that it should have. -/
theorem tidy_expand_piece (tidy : Tidy value.toList) (tidyValues : TidyValues vars) {piece : Piece}
    (mem : piece ∈ split value.toList) :
    Tidy (piece.expand vars) ∧ split (piece.expand vars) = piece.opened vars := by
  cases piece with
  | char c => exact ⟨tidy_singleton (tidy.ne_dollar mem), split_singleton c⟩
  | reference name =>
      have isName := isName_of_mem_split mem
      rw [Piece.expand, Piece.opened]
      cases found : vars.get? name with
      | none => exact ⟨tidy_placeholder isName, split_placeholder isName⟩
      | some own => exact ⟨tidyValues name own found, rfl⟩

theorem toList_expand (value : String) (vars : Variables) :
    (expand value vars).toList = (split value.toList).flatMap (Piece.expand vars) := by
  rw [expand, String.toList_ofList]
  rfl

/-- An expansion of tidy texts is tidy. -/
theorem tidy_expand (tidy : Tidy value.toList) (tidyValues : TidyValues vars) :
    Tidy (expand value vars).toList := by
  rw [toList_expand]
  exact tidy_flatMap fun piece mem => (tidy_expand_piece tidy tidyValues mem).1

/-- **The pieces of an expansion** are those that were put in the place of each piece. -/
theorem split_expand (tidy : Tidy value.toList) (tidyValues : TidyValues vars) :
    split (expand value vars).toList = (split value.toList).flatMap (Piece.opened vars) := by
  rw [toList_expand, split_flatMap fun piece mem => (tidy_expand_piece tidy tidyValues mem).1]
  exact List.flatMap_congr fun piece mem => (tidy_expand_piece tidy tidyValues mem).2

/-- **What an expansion refers to**: the unknown names that the text referred to, and all names that
the values of the known ones refer to. -/
theorem references_expand (tidy : Tidy value.toList) (tidyValues : TidyValues vars) {name : String}
    (mem : name ∈ references (expand value vars)) :
    (name ∈ references value ∧ vars.get? name = none) ∨
      ∃ other own, other ∈ references value ∧ vars.get? other = some own ∧
        name ∈ references own := by
  rw [mem_references_iff, split_expand tidy tidyValues] at mem
  obtain ⟨piece, isPiece, put⟩ := List.mem_flatMap.mp mem
  cases piece with
  | char c => simp [Piece.opened] at put
  | reference other =>
      have refers := mem_references_iff.mpr isPiece
      rw [Piece.opened] at put
      cases found : vars.get? other with
      | none =>
          rw [found] at put
          obtain rfl : name = other := by simpa using put
          exact .inl ⟨refers, found⟩
      | some own =>
          rw [found] at put
          exact .inr ⟨other, own, refers, found, mem_references_iff.mpr put⟩

/-- **Expanding what was expanded.** Where a second expansion gives each known name what it makes of
the name's value, the first one makes no difference. -/
theorem expand_expand (tidy : Tidy value.toList) (tidyValues : TidyValues vars)
    {solution : Variables}
    (solves : ∀ name own, name ∈ references value → vars.get? name = some own →
      solution.get? name = some (expand own solution)) :
    expand (expand value vars) solution = expand value solution := by
  rw [← String.toList_inj, toList_expand, split_expand tidy tidyValues, toList_expand,
    List.flatMap_assoc]
  refine List.flatMap_congr fun piece mem => ?_
  cases piece with
  | char c => rfl
  | reference name =>
      rw [Piece.opened]
      cases found : vars.get? name with
      | none => simp
      | some own =>
          have solved := solves name own (mem_references_iff.mpr mem) found
          rw [Piece.expand, solved]
          exact (toList_expand own solution).symm

end DocPipeline.Placeholder
