import DocPipeline.Proofs.Document.Growth
import DocPipeline.Proofs.Document.Reprint

/-!
# Canonical documents

A document is canonical if it is what reading makes of its own text: its names and keys are plain,
no element has two attributes with one key, and among the children of an element there are neither
blank texts nor texts side by side. Canonical documents stay canonical when elements of others are
put behind the children of one of their elements, because that puts no text next to another.

## Main definitions

* `Element.IsTidy`, `Element.IsCanonical`: one element as reading leaves it, and all of them.
* `Element.IsShallow`: what is said of an element apart from the elements within it.

## Main results

* `Element.IsCanonical.parse_own`: a canonical document is read back as it is.
* `Element.All.update?`: what holds of all elements of a document that has grown.
* `Element.isShallow_isTidy`, `Element.isShallow_named`: what is said of texts and of names is
  shallow.
-/

namespace DocPipeline

/-! ### All elements of a document -/

namespace Element

/-- All elements of a part of a document are elements of the document. -/
theorem All.at? {holds : Element → Prop} {doc e : Element} (all : doc.All holds) {address : Address}
    (found : doc.at? address = some e) : e.All holds := by
  intro within f there
  refine all (address ++ within) f ?_
  rw [at?_append, found]
  exact there

mutual

/-- What holds of all elements can be decided element by element. -/
def decideAll (holds : Element → Prop) [DecidablePred holds] :
    (e : Element) → Decidable (e.All holds)
  | ⟨_, _, children⟩ =>
    have := decideAllWithin holds children
    decidable_of_iff _ all_iff.symm

/-- What holds of all elements in a list of nodes. -/
def decideAllWithin (holds : Element → Prop) [DecidablePred holds] :
    (nodes : List Node) → Decidable (∀ child, .element child ∈ nodes → child.All holds)
  | [] => isTrue nofun
  | .text _ :: rest =>
    have := decideAllWithin holds rest
    decidable_of_iff (∀ child, .element child ∈ rest → child.All holds) (by simp)
  | .element e :: rest =>
    have := decideAll holds e
    have := decideAllWithin holds rest
    decidable_of_iff (e.All holds ∧ ∀ child, .element child ∈ rest → child.All holds) (by simp)

end

instance (holds : Element → Prop) [DecidablePred holds] (e : Element) : Decidable (e.All holds) :=
  decideAll holds e

end Element

/-! ### Canonical documents -/

/-- A text, blank or not. -/
def Node.isText : Node → Bool
  | .element _ => false
  | .text _ => true

namespace Element

/-- One element as reading leaves it, whatever the elements within it are. -/
structure IsTidy (e : Element) : Prop where
  plainName : Markup.isPlain e.name = true
  plainKeys : ∀ pair ∈ e.attributes, Markup.isPlain pair.1 = true
  distinct : (e.attributes.map Prod.fst).Nodup
  /-- No child is a blank text. -/
  filled : ∀ node ∈ e.children, node.isBlankText = false
  /-- No two texts stand side by side. -/
  apart : e.children.IsChain fun first second => ¬(first.isText ∧ second.isText)

instance : DecidablePred IsTidy := fun e =>
  decidable_of_iff
    (Markup.isPlain e.name = true ∧ (∀ pair ∈ e.attributes, Markup.isPlain pair.1 = true) ∧
      (e.attributes.map Prod.fst).Nodup ∧ (∀ node ∈ e.children, node.isBlankText = false) ∧
      e.children.IsChain fun first second => ¬(first.isText ∧ second.isText))
    ⟨fun ⟨plainName, plainKeys, distinct, filled, apart⟩ =>
        ⟨plainName, plainKeys, distinct, filled, apart⟩,
      fun ⟨plainName, plainKeys, distinct, filled, apart⟩ =>
        ⟨plainName, plainKeys, distinct, filled, apart⟩⟩

/-- A document all of whose elements are tidy. -/
def IsCanonical (e : Element) : Prop := e.All IsTidy

instance : DecidablePred IsCanonical := fun e => decideAll IsTidy e

end Element

/-! ### Reading them back -/

/-- Texts that stand apart are not joined. -/
theorem joinTexts_of_apart {nodes : List Node}
    (apart : nodes.IsChain fun first second => ¬(first.isText ∧ second.isText)) :
    joinTexts nodes = nodes := by
  induction nodes with
  | nil => rfl
  | cons node nodes ih =>
      have later := ih apart.tail
      cases node with
      | element e => rw [joinTexts, later]
      | text content =>
          rw [joinTexts, later]
          -- what comes next is no text
          rcases nodes with _ | ⟨_ | next, others⟩
          · rfl
          · rfl
          · exact absurd ⟨rfl, rfl⟩ apart.rel

/-- A tidy list of nodes stays as it is. -/
theorem tidied_eq_self {nodes : List Node} (filled : ∀ node ∈ nodes, node.isBlankText = false)
    (apart : nodes.IsChain fun first second => ¬(first.isText ∧ second.isText)) :
    tidied nodes = nodes := by
  rw [tidied, joinTexts_of_apart apart, List.filter_eq_self]
  intro node mem
  rw [filled node mem, Bool.not_false]

/-- Normalising a list of nodes changes nothing if it changes none of the elements there. -/
theorem normaliseNodes_eq_self {nodes : List Node}
    (same : ∀ child, .element child ∈ nodes → child.normalise = child) :
    normaliseNodes nodes = nodes := by
  induction nodes with
  | nil => rfl
  | cons node nodes ih =>
      have later := ih fun child mem => same child (List.mem_cons_of_mem _ mem)
      cases node with
      | element e => rw [normaliseNodes, same e List.mem_cons_self, later]
      | text content => rw [normaliseNodes, later]

namespace Element

variable {e : Element}

/-- Canonical documents are normal. -/
theorem IsCanonical.normalise_eq (canonical : e.IsCanonical) : e.normalise = e := by
  induction e using Element.induction with
  | step e ih =>
      obtain ⟨tidy, within⟩ := all_iff.mp canonical
      have same := normaliseNodes_eq_self fun child mem => ih child mem (within child mem)
      obtain ⟨name, attributes, children⟩ := e
      rw [normalise, same, tidied_eq_self tidy.filled tidy.apart]

/-- **A canonical document is read back** from its text as it is. -/
theorem IsCanonical.parse_own (canonical : e.IsCanonical) : Element.parse e.toXml = .ok e := by
  have legible : e.All fun f => f.IsTagged ∧ f.IsLegible := fun address f found =>
    have tidy := canonical address f found
    isTagged_of_isPlain tidy.plainName tidy.plainKeys tidy.distinct
  rw [parse_toXml_of_legible legible, canonical.normalise_eq]

/-! ### Growing -/

/-- What is said of an element apart from what the elements within it are: it stays true if one of
them is replaced by another, and if more are put behind the children. -/
structure IsShallow (holds : Element → Prop) : Prop where
  replaced : ∀ {e child : Element} {i : Nat} (other : Element),
    e.children[i]? = some (.element child) → holds e →
      holds { e with children := e.children.set i (.element other) }
  extended : ∀ {e : Element} (more : List Element), holds e → holds (e.withChildren more)

/-- **All elements of a document that has grown** are as they were, if what is put into it is. -/
theorem All.update? {holds : Element → Prop} (shallow : IsShallow holds) {more : List Element}
    {doc changed : Element} {address : Address} (all : doc.All holds)
    (added : ∀ e ∈ more, e.All holds)
    (updated : doc.update? (·.withChildren more) address = some changed) : changed.All holds := by
  induction address generalizing doc changed with
  | nil =>
      obtain rfl := Option.some.inj updated
      obtain ⟨own, below⟩ := all_iff.mp all
      refine all_iff.mpr ⟨shallow.extended more own, fun child mem => ?_⟩
      rcases List.mem_append.mp mem with old | new
      · exact below child old
      · obtain ⟨e, taken, same⟩ := List.mem_map.mp new
        rw [← Node.element.inj same]
        exact added e taken
  | cons i rest ih =>
      obtain ⟨own, below⟩ := all_iff.mp all
      rw [update?_cons_eq_some_iff] at updated
      obtain ⟨child, grown, present, within, rfl⟩ := updated
      refine all_iff.mpr ⟨shallow.replaced grown present own, fun other mem => ?_⟩
      rcases List.mem_or_eq_of_mem_set mem with old | new
      · exact below other old
      · rw [Node.element.inj new]
        exact ih (below child (List.mem_of_getElem? present)) within

/-- Where texts stand does not depend on what the elements between them are. -/
theorem map_isText_set {nodes : List Node} {i : Nat} {child : Element} (other : Element)
    (present : nodes[i]? = some (.element child)) :
    (nodes.set i (.element other)).map Node.isText = nodes.map Node.isText := by
  induction nodes generalizing i with
  | nil => cases present
  | cons node nodes ih =>
      cases i with
      | zero =>
          obtain rfl := Option.some.inj present
          rfl
      | succ i => exact congrArg (node.isText :: ·) (ih present)

theorem isShallow_isTidy : IsShallow IsTidy where
  replaced {e child i} other present tidy := by
    refine ⟨tidy.plainName, tidy.plainKeys, tidy.distinct, fun node mem => ?_, ?_⟩
    · rcases List.mem_or_eq_of_mem_set mem with old | rfl
      · exact tidy.filled node old
      · rfl
    · have apart := tidy.apart
      rw [← List.isChain_map (R := fun first second => ¬(first = true ∧ second = true))
        Node.isText] at apart ⊢
      rw [map_isText_set other present]
      exact apart
  extended {e} more tidy := by
    refine ⟨tidy.plainName, tidy.plainKeys, tidy.distinct, fun node mem => ?_, ?_⟩
    · rcases List.mem_append.mp mem with old | new
      · exact tidy.filled node old
      · obtain ⟨_, -, rfl⟩ := List.mem_map.mp new
        rfl
    · -- no text is among what is added, so none follows the last child
      have added : ∀ node ∈ more.map Node.element, node.isText = false := by
        rintro _ mem
        obtain ⟨_, -, rfl⟩ := List.mem_map.mp mem
        rfl
      refine List.isChain_append.mpr ⟨tidy.apart, ?_, fun _ _ second first both => ?_⟩
      · refine (List.pairwise_of_forall_mem_list fun _ first _ _ both => ?_).isChain
        rw [added _ first] at both
        exact Bool.false_ne_true both.1
      · rw [added _ (List.mem_of_head? first)] at both
        exact Bool.false_ne_true both.2

/-- All names and keys of an element are as they are called for. -/
def Named (fits : String → Prop) (e : Element) : Prop :=
  fits e.name ∧ ∀ pair ∈ e.attributes, fits pair.1

theorem isShallow_named (fits : String → Prop) : IsShallow (Named fits) where
  replaced _ _ named := named
  extended _ named := named

end Element

end DocPipeline
