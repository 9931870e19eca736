import DocPipeline.Proofs.Document.Growth

/-!
# Putting elements behind the children of one

When the element at one address is changed, a document is as it was everywhere else: what is beside
that element is the same, and the elements that it is within keep their names, their attributes and
their children one by one. When the change puts further elements behind its children, what was
within it is the same as well. So all that the document has gained is found behind the old children,
at addresses that led nowhere before.

## Main definitions

* `Element.surface`: an element without what is within its element children.
* `Address.Beyond`: the addresses behind the first children of an element.
* `Element.ExtendedAt`: a document that differs from another only by elements behind the children of
  one of its elements.

## Main results

* `Element.eq_of_surface`: documents that are told apart have different surfaces somewhere.
* `Element.at?_update?_below`, `Element.at?_update?_beside`, `Element.surface_update?`: the parts of
  a document one of whose elements has been changed.
* `Element.update?_extendedAt`: putting elements behind the children of one.
* `Element.ExtendedAt.unique`: what is said of an extended document says all of it.
-/

namespace DocPipeline

/-! ### Surfaces -/

/-- What a text says; an element says nothing by itself. -/
def Node.text? : Node → Option String
  | .text content => some content
  | .element _ => none

/-- An element without what is within its element children: the name, the attributes, and of every
child the text or that it is an element. -/
def Element.surface (e : Element) : String × List (String × String) × List (Option String) :=
  (e.name, e.attributes, e.children.map Node.text?)

/-- Addresses that lead through an element into those of its children that stand behind the first
`n`. -/
def Address.Beyond (target : Address) (n : Nat) (b : Address) : Prop :=
  ∃ i way, n ≤ i ∧ b = target ++ i :: way

namespace Element

variable {doc changed child : Element} {target b : Address} {i : Nat}

theorem at?_cons (present : doc.children[i]? = some (.element child)) (way : Address) :
    doc.at? (i :: way) = child.at? way := by
  rw [at?, present]

/-- Where an address leads from an element depends on the child that it goes into. -/
theorem at?_cons_congr {e f : Element} (same : e.children[i]? = f.children[i]?) (way : Address) :
    e.at? (i :: way) = f.at? (i :: way) := by
  rw [at?, at?, same]

/-- **Documents with one surface at every address** are the same. -/
theorem eq_of_surface (e f : Element)
    (same : ∀ b, (e.at? b).map surface = (f.at? b).map surface) : e = f := by
  induction e using Element.induction generalizing f with
  | step e ih =>
      have root : e.surface = f.surface := Option.some.inj (same [])
      simp only [surface, Prod.mk.injEq] at root
      obtain ⟨name, attributes, shown⟩ := root
      -- a child is shown as a text or as an element, and an element is told by what is within it
      have children : e.children = f.children := by
        refine List.ext_getElem? fun i => ?_
        have child : e.children[i]?.map Node.text? = f.children[i]?.map Node.text? := by
          rw [← List.getElem?_map, shown, List.getElem?_map]
        cases here : e.children[i]? with
        | none => simpa [here, eq_comm] using child
        | some node =>
            cases there : f.children[i]? with
            | none => simp [here, there] at child
            | some other =>
                cases node with
                | text content =>
                    cases other with
                    | text content' => simpa [here, there, Node.text?] using child
                    | element _ => simp [here, there, Node.text?] at child
                | element e' =>
                    cases other with
                    | text _ => simp [here, there, Node.text?] at child
                    | element f' =>
                        have within := ih e' (List.mem_of_getElem? here) f' fun b => by
                          rw [← at?_cons here, ← at?_cons there]
                          exact same (i :: b)
                        rw [within]
      cases e
      cases f
      rw [mk.injEq]
      exact ⟨name, attributes, children⟩

/-! ### Changing one element -/

variable {change : Element → Element}

/-- A change that leaves an element as it is leaves the document as it is. -/
theorem update?_eq_self {old : Element} (found : doc.at? target = some old)
    (fixed : change old = old) : doc.update? change target = some doc := by
  induction target generalizing doc with
  | nil =>
      obtain rfl := Option.some.inj found
      exact congrArg some fixed
  | cons i rest ih =>
      obtain ⟨child, present, found⟩ := at?_cons_eq_some_iff.mp found
      rw [update?_cons_eq_some_iff]
      refine ⟨child, child, present, ih found, ?_⟩
      obtain ⟨_, same⟩ := List.getElem?_eq_some_iff.mp present
      rw [← same, List.set_getElem_self]
      cases doc
      rfl

/-- The child into which a change goes. -/
theorem getElem?_set_child {grown : Element} (present : doc.children[i]? = some (.element child)) :
    (doc.children.set i (.element grown))[i]? = some (.element grown) :=
  List.getElem?_set_self (List.getElem?_eq_some_iff.mp present).1

/-- Two changes of one element, the second of what the first has made of it. -/
theorem update?_update? {again : Element → Element}
    (updated : doc.update? change target = some changed) :
    changed.update? again target = doc.update? (again ∘ change) target := by
  induction target generalizing doc changed with
  | nil =>
      obtain rfl := Option.some.inj updated
      rfl
  | cons i rest ih =>
      rw [update?_cons_eq_some_iff] at updated
      obtain ⟨child, grown, present, within, rfl⟩ := updated
      rw [update?, update?, getElem?_set_child present, present]
      simp only [ih within, List.set_set]

/-- **Within the element that has been changed** there is what the change has made of it. -/
theorem at?_update?_below {old : Element} (found : doc.at? target = some old)
    (updated : doc.update? change target = some changed) (way : Address) :
    changed.at? (target ++ way) = (change old).at? way := by
  induction target generalizing doc changed with
  | nil =>
      obtain rfl := Option.some.inj found
      obtain rfl := Option.some.inj updated
      rfl
  | cons i rest ih =>
      rw [update?_cons_eq_some_iff] at updated
      obtain ⟨child, grown, present, within, rfl⟩ := updated
      rw [at?_cons present] at found
      rw [List.cons_append, at?_cons (getElem?_set_child present)]
      exact ih found within

/-- **Beside the element that has been changed** everything is as it was. -/
theorem at?_update?_beside (updated : doc.update? change target = some changed)
    (notAbove : ¬ b <+: target) (notBelow : ¬ target <+: b) : changed.at? b = doc.at? b := by
  induction target generalizing doc changed b with
  | nil => exact absurd List.nil_prefix notBelow
  | cons i rest ih =>
      rw [update?_cons_eq_some_iff] at updated
      obtain ⟨child, grown, present, within, rfl⟩ := updated
      cases b with
      | nil => exact absurd List.nil_prefix notAbove
      | cons j b =>
          rcases eq_or_ne i j with rfl | differ
          · rw [at?_cons (getElem?_set_child present), at?_cons present]
            rw [List.prefix_cons_inj] at notAbove notBelow
            exact ih within notAbove notBelow
          · exact at?_cons_congr (List.getElem?_set_ne differ) b

/-- **The elements around the one that has been changed** have the surfaces that they had. -/
theorem surface_update? (updated : doc.update? change target = some changed)
    (notBelow : ¬ target <+: b) : (changed.at? b).map surface = (doc.at? b).map surface := by
  induction target generalizing doc changed b with
  | nil => exact absurd List.nil_prefix notBelow
  | cons i rest ih =>
      rw [update?_cons_eq_some_iff] at updated
      obtain ⟨child, grown, present, within, rfl⟩ := updated
      cases b with
      | nil =>
          have shown : (doc.children.set i (.element grown)).map Node.text? =
              doc.children.map Node.text? := by
            refine List.ext_getElem? fun j => ?_
            rcases eq_or_ne i j with rfl | differ
            · rw [List.getElem?_map, List.getElem?_map, getElem?_set_child present, present]
              rfl
            · rw [List.getElem?_map, List.getElem?_map, List.getElem?_set_ne differ]
          simp [at?, surface, shown]
      | cons j b =>
          rcases eq_or_ne i j with rfl | differ
          · rw [at?_cons (getElem?_set_child present), at?_cons present]
            rw [List.prefix_cons_inj] at notBelow
            exact ih within notBelow
          · rw [at?_cons_congr (List.getElem?_set_ne differ) b]

/-! ### Further children -/

/-- Up to its old children, what is within an element with more children is what was. -/
theorem at?_withChildren_of_lt {e : Element} {more : List Element} (old : i < e.children.length)
    (way : Address) : (e.withChildren more).at? (i :: way) = e.at? (i :: way) :=
  at?_cons_congr (List.getElem?_append_left old) way

/-- Behind its old children there are the new ones. -/
theorem at?_withChildren_add (e : Element) (more : List Element) (i : Nat) (way : Address) :
    (e.withChildren more).at? ((e.children.length + i) :: way) =
      more[i]?.bind fun child => child.at? way := by
  have added : (e.withChildren more).children[e.children.length + i]? =
      more[i]?.map Node.element := by
    rw [withChildren, List.getElem?_append_right (Nat.le_add_right _ _), Nat.add_sub_cancel_left,
      List.getElem?_map]
  rw [at?, added]
  cases more[i]? <;> rfl

/-- A document differs from another only in that further elements are behind the children of the
element at an address. -/
structure ExtendedAt (doc : Element) (target : Address) (old : Element) (more : List Element)
    (merged : Element) : Prop where
  found : doc.at? target = some old
  /-- The element has its name, its attributes and its children, and the further ones behind. -/
  extended : merged.at? target =
    some ⟨old.name, old.attributes, old.children ++ more.map .element⟩
  /-- Behind the old children there are the further elements with all that is within them. -/
  added : ∀ i way, merged.at? (target ++ (old.children.length + i) :: way) =
    more[i]?.bind fun child => child.at? way
  /-- An element that does not contain the extended one is as it was. -/
  kept : ∀ b, ¬ b <+: target → ¬ target.Beyond old.children.length b →
    merged.at? b = doc.at? b
  /-- An element that contains it has its name, its attributes and its children one by one. -/
  shown : ∀ b, b ≠ target → ¬ target.Beyond old.children.length b →
    (merged.at? b).map surface = (doc.at? b).map surface

/-- **Putting elements behind the children of one** extends the document there. -/
theorem update?_extendedAt {old merged : Element} {more : List Element}
    (found : doc.at? target = some old)
    (updated : doc.update? (·.withChildren more) target = some merged) :
    doc.ExtendedAt target old more merged := by
  have below (way : Address) : merged.at? (target ++ way) = (old.withChildren more).at? way :=
    at?_update?_below found updated way
  have kept : ∀ b, ¬ b <+: target → ¬ target.Beyond old.children.length b →
      merged.at? b = doc.at? b := by
    intro b notAbove notBeyond
    by_cases inside : target <+: b
    · obtain ⟨way, rfl⟩ := inside
      cases way with
      | nil => exact absurd (by simp) notAbove
      | cons i way =>
          have old : i < old.children.length := by
            by_contra behind
            exact notBeyond ⟨i, way, by omega, rfl⟩
          rw [below, at?_withChildren_of_lt old, at?_append, found, Option.bind_some]
    · exact at?_update?_beside updated notAbove inside
  refine ⟨found, ?_, fun i way => ?_, kept, fun b differ notBeyond => ?_⟩
  · have own := below []
    rw [List.append_nil] at own
    exact own
  · rw [below, at?_withChildren_add]
  · by_cases inside : target <+: b
    · have notAbove : ¬ b <+: target := fun above =>
        differ (above.eq_of_length_le inside.length_le)
      rw [kept b notAbove notBeyond]
    · exact surface_update? updated inside

/-- An extended document is determined by what is said of it. -/
theorem ExtendedAt.unique {old first second : Element} {more : List Element}
    (one : doc.ExtendedAt target old more first) (other : doc.ExtendedAt target old more second) :
    first = second := by
  refine eq_of_surface first second fun b => ?_
  by_cases own : b = target
  · rw [own, one.extended, other.extended]
  · by_cases beyond : target.Beyond old.children.length b
    · obtain ⟨i, way, behind, rfl⟩ := beyond
      obtain ⟨j, rfl⟩ := Nat.exists_eq_add_of_le behind
      rw [one.added, other.added]
    · rw [one.shown b own beyond, other.shown b own beyond]

end Element

end DocPipeline
