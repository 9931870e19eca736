import DocPipeline.Proofs.Document.Extension

/-!
# What splicing does

Splicing a document into one that is kept appends copies one after the other to the element that was
found first. The copies end up behind the children of that element in the order in which they were
selected, and nothing else about the document changes; where there is nothing to append or no place
for it, nothing changes at all.

## Main results

* `Element.selected_listed`: the elements that a path selects are copies of what is at its addresses.
* `Element.foldl_appendAt`: appending elements one after the other.
* `Element.spliceInto_run_eq_splice`: splicing in place makes the document that splicing yields.
* `Element.spliceInto_exact`: what splicing does.
-/

namespace DocPipeline

namespace Element

variable {doc old changed source dest : Element} {target : Address}
  {sourcePath destPath : NodePath}

/-! ### What is appended -/

/-- The elements that a path selects are those of the places that it selects. -/
theorem selected_eq (doc : Element) (path : NodePath) :
    doc.selected path = (path.selectPlaces doc).map (·.element) := by
  rw [selected, NodePath.select, List.filterMap_map, ← List.filterMap_eq_map]
  exact List.filterMap_congr fun place mem => (path.selectPlaces_listed doc).1.sound place mem

/-- Every address that a path selects leads to the element that is copied for it. -/
theorem selected_listed (doc : Element) (path : NodePath) :
    List.Forall₂ (fun a copy => doc.at? a = some copy) (path.select doc) (doc.selected path) := by
  rw [selected_eq, NodePath.select, List.forall₂_map_left_iff, List.forall₂_map_right_iff,
    List.forall₂_same]
  exact (path.selectPlaces_listed doc).1.sound

/-- The copy for an address stands where the address stands among those that are selected. -/
theorem selected_getElem? {path : NodePath} {i : Nat} {a : Address}
    (here : (path.select doc)[i]? = some a) : (doc.selected path)[i]? = doc.at? a := by
  rw [NodePath.select, List.getElem?_map] at here
  obtain ⟨place, there, rfl⟩ := Option.map_eq_some_iff.mp here
  have sound := (path.selectPlaces_listed doc).1.sound place (List.mem_of_getElem? there)
  rw [selected_eq, List.getElem?_map, there, sound, Option.map_some]

/-- A path selects nothing if and only if there is nothing to append. -/
theorem selected_eq_nil_iff {path : NodePath} : doc.selected path = [] ↔ path.select doc = [] := by
  rw [← List.length_eq_zero_iff, ← (selected_listed doc path).length_eq, List.length_eq_zero_iff]

/-- The address that a path selects first leads to an element. -/
theorem target?_eq (doc : Element) (path : NodePath) : doc.target? path = path.selectFirst doc := by
  rw [target?]
  cases first : path.selectFirst doc with
  | none => rfl
  | some address =>
      obtain ⟨e, found⟩ := NodePath.exists_of_selectFirst first
      simp [Option.filter, found]

/-! ### One after the other -/

/-- A program that begins by looking at the state. -/
theorem get_bind_run {σ ε β : Type} (next : σ → ExceptT ε (StateM σ) β) (s : σ) :
    (get >>= next).run.run s = (next s).run.run s :=
  rfl

/-- A program that begins by changing the state for one element after the other. -/
theorem forM_modify_bind_run {σ ε α β : Type} (change : α → σ → σ) (xs : List α)
    (next : PUnit → ExceptT ε (StateM σ) β) (s : σ) :
    (xs.forM (fun x => modify (change x)) >>= next).run.run s =
      (next ⟨⟩).run.run (xs.foldl (fun s x => change x s) s) := by
  induction xs generalizing s with
  | nil => rfl
  | cons x xs ih => exact ih (change x s)

/-- An element with nothing behind its children. -/
theorem withChildren_nil (e : Element) : e.withChildren [] = e := by
  cases e
  simp [withChildren]

/-- An element with one more behind those that are behind its children. -/
theorem withChildren_withChild (e : Element) (more : List Element) (child : Element) :
    (e.withChildren more).withChild child = e.withChildren (more ++ [child]) := by
  simp [withChildren, withChild, withNode]

/-- **One more element** goes behind those that have been appended before. -/
theorem appendAt_update? {more : List Element} (child : Element)
    (found : doc.at? target = some old)
    (updated : doc.update? (·.withChildren more) target = some changed) :
    doc.update? (·.withChildren (more ++ [child])) target =
      some (appendAt target child changed) := by
  have here := at?_update?_below found updated []
  rw [List.append_nil] at here
  obtain ⟨grown, appended⟩ := exists_update? (·.withChild child) here
  have both : changed.update? (·.withChild child) target = _ := update?_update? updated
  simp only [Function.comp_def, withChildren_withChild, appended] at both
  rw [← both, appendAt, appended, Option.getD_some]

/-- **Elements appended one after the other** are put behind the children together. -/
theorem foldl_appendAt (children : List Element) {more : List Element}
    (found : doc.at? target = some old)
    (updated : doc.update? (·.withChildren more) target = some changed) :
    doc.update? (·.withChildren (more ++ children)) target =
      some (children.foldl (fun doc child => appendAt target child doc) changed) := by
  induction children generalizing more changed with
  | nil =>
      rw [List.append_nil]
      exact updated
  | cons child children ih =>
      have next := ih (appendAt_update? child found updated)
      rw [List.append_assoc, List.singleton_append] at next
      exact next

/-- The copies together, behind the children that were there before any of them. -/
theorem update?_eq_foldl_appendAt (found : doc.at? target = some old) (children : List Element) :
    doc.update? (·.withChildren children) target =
      some (children.foldl (fun doc child => appendAt target child doc) doc) :=
  foldl_appendAt children found (update?_eq_self found old.withChildren_nil)

/-! ### The whole -/

/-- **What splicing does to a document that is kept**: nothing where nothing is selected or where
there is no place for it, and otherwise the copies are appended one after the other. -/
theorem spliceInto_run (source dest : Element) (sourcePath destPath : NodePath) :
    (source.spliceInto sourcePath destPath).run.run dest =
      if source.selected sourcePath = [] then (.ok 0, dest)
      else
        match destPath.selectFirst dest with
        | none => (.error (.unmatchedDestination destPath.toString), dest)
        | some target =>
          (.ok (source.selected sourcePath).length,
            (source.selected sourcePath).foldl (fun doc copy => appendAt target copy doc) dest) := by
  rw [← target?_eq, spliceInto]
  by_cases nothing : source.selected sourcePath = []
  · rw [nothing]
    rfl
  · simp only [List.isEmpty_iff, if_neg nothing, get_bind_run]
    cases dest.target? destPath with
    | none => rfl
    | some target => exact forM_modify_bind_run (appendAt target) _ _ dest

/-- Splicing in place ends with the document that splicing yields, and fails where that fails. -/
theorem spliceInto_run_eq_splice (source dest : Element) (sourcePath destPath : NodePath) :
    (source.spliceInto sourcePath destPath).run.run dest =
      match dest.splice source sourcePath destPath with
      | .ok (merged, count) => (.ok count, merged)
      | .error error => (.error error, dest) := by
  rw [spliceInto_run, splice]
  cases source.selected sourcePath with
  | nil => rfl
  | cons first rest =>
      cases matched : destPath.selectFirst dest with
      | none => rfl
      | some target =>
          obtain ⟨old, found⟩ := NodePath.exists_of_selectFirst matched
          simp only [Option.bind_some, update?_eq_foldl_appendAt found]
          rfl

/-- **Splicing is exact.** Where the first path selects nothing, nothing is appended and nothing
changes, whatever the second path is. Where it selects something and the second path selects
nothing, there is no place for it and nothing changes. Otherwise one copy is appended for each
address that the first path selects, in document order, behind the children of the first element in
document order that the second path selects, and apart from that the document is as it was. Since
every copy comes with all that is within what it was copied from, an element that is selected within
another that is selected is there twice: within the copy of the other and as a copy of its own. -/
theorem spliceInto_exact (source dest : Element) (sourcePath destPath : NodePath) :
    let outcome := (source.spliceInto sourcePath destPath).run.run dest
    let selected := sourcePath.select source
    let places := destPath.select dest
    (selected = [] → outcome = (.ok 0, dest)) ∧
      (selected ≠ [] → places = [] →
        outcome = (.error (.unmatchedDestination destPath.toString), dest)) ∧
      (selected ≠ [] → places ≠ [] → ∃ target old copies merged,
        outcome = (.ok selected.length, merged) ∧
          target ∈ places ∧ (∀ other ∈ places, other = target ∨ target.Before other) ∧
          selected.Pairwise Address.Before ∧
          List.Forall₂ (fun a copy => source.at? a = some copy) selected copies ∧
          dest.ExtendedAt target old copies merged ∧
          ∀ i a way, selected[i]? = some a →
            merged.at? (target ++ (old.children.length + i) :: way) = source.at? (a ++ way)) := by
  intro outcome selected places
  have run : outcome = _ := spliceInto_run source dest sourcePath destPath
  refine ⟨fun nothing => ?_, fun something nowhere => ?_, fun something somewhere => ?_⟩
  · rw [run, if_pos (selected_eq_nil_iff.mpr nothing)]
  · have unmatched : destPath.selectFirst dest = none := List.head?_eq_none_iff.mpr nowhere
    rw [run, if_neg (mt selected_eq_nil_iff.mp something), unmatched]
  · obtain ⟨target, later, listed⟩ := List.exists_cons_of_ne_nil somewhere
    have matched : destPath.selectFirst dest = some target :=
      List.head?_eq_some_iff.mpr ⟨later, listed⟩
    obtain ⟨old, found⟩ := NodePath.exists_of_selectFirst matched
    obtain ⟨among, first⟩ := NodePath.selectFirst_eq_some_iff.mp matched
    have copied := selected_listed source sourcePath
    have extended :=
      update?_extendedAt found (update?_eq_foldl_appendAt found (source.selected sourcePath))
    refine ⟨target, old, source.selected sourcePath, _, ?_, among, first,
      sourcePath.pairwise_select source, copied, extended, fun i a way here => ?_⟩
    · rw [run, if_neg (mt selected_eq_nil_iff.mp something), matched, copied.length_eq]
    · rw [extended.added, selected_getElem? here, at?_append]

/-- An element that is selected within another is appended within its copy and on its own, behind the
text that was there. -/
theorem spliceInto_nested :
    let inner : Element := ⟨"b", [], []⟩
    let outer : Element := ⟨"b", [], [.text "1", .element inner]⟩
    let source : Element := ⟨"a", [], [.element outer]⟩
    let dest : Element :=
      ⟨"root", [], [.text "x", .element ⟨"a", [], [.text "y"]⟩, .element ⟨"a", [], []⟩]⟩
    let sourcePath : NodePath := ⟨.anywhere, .named "b", []⟩
    let destPath : NodePath := ⟨.anywhere, .named "a", []⟩
    sourcePath.select source ≠ [] ∧ destPath.select dest ≠ [] ∧ ∃ target old copies merged,
      (source.spliceInto sourcePath destPath).run.run dest = (.ok 2, merged) ∧
        dest.ExtendedAt target old copies merged ∧
        merged.at? (target ++ [old.children.length]) = some outer ∧
        merged.at? (target ++ [old.children.length, 1]) = some inner ∧
        merged.at? (target ++ [old.children.length + 1]) = some inner := by
  intro inner outer source dest sourcePath destPath
  have selected : sourcePath.select source = [[0], [0, 1]] := by
    simp [sourcePath, source, outer, inner, NodePath.select, NodePath.selectPlaces,
      NodePath.startPlaces, Place.within, Place.root, Place.children, childElements,
      childElementsFrom, NameTest.accepts]
  have places : destPath.select dest = [[1], [2]] := by
    simp [destPath, dest, NodePath.select, NodePath.selectPlaces, NodePath.startPlaces,
      Place.within, Place.root, Place.children, childElements, childElementsFrom,
      NameTest.accepts]
  have something : sourcePath.select source ≠ [] := by
    rw [selected]
    exact List.cons_ne_nil _ _
  have somewhere : destPath.select dest ≠ [] := by
    rw [places]
    exact List.cons_ne_nil _ _
  obtain ⟨-, -, matched⟩ := spliceInto_exact source dest sourcePath destPath
  obtain ⟨target, old, copies, merged, run, -, -, -, -, extended, copied⟩ :=
    matched something somewhere
  rw [selected] at run copied
  exact ⟨something, somewhere, target, old, copies, merged, run, extended, copied 0 [0] [] rfl,
    copied 0 [0] [1] rfl, copied 1 [0, 1] [] rfl⟩

end Element

end DocPipeline
