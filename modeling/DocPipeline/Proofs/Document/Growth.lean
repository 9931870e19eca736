import DocPipeline.Merge.Splice
import DocPipeline.Proofs.Document.Selection
import Mathlib

/-!
# Growing documents

A document grows when elements are put behind the children of one of its elements. All that was in
it stays where it was: every address still leads to the element it led to, with its name, its
attributes and its children, and perhaps with more children behind those.

## Main definitions

* `Element.Embeds`: an element with what it has grown into.

## Main results

* `Element.Embeds.at?`: the elements of a document that has grown.
* `Element.update?_embeds`: putting elements behind the children of one makes a document grow.
* `Element.update?_count`: what is put there is what is counted in addition.
-/

namespace DocPipeline

/-! ### Embeddings -/

mutual

/-- An element is found in another: the name and the attributes are the same, and the children come
first among those of the other. -/
def Element.Embeds : Element → Element → Prop
  | ⟨name, attributes, children⟩, other =>
    name = other.name ∧ attributes = other.attributes ∧ NodesEmbed children other.children

/-- A node is found in the place of another. -/
def Node.Embeds : Node → Node → Prop
  | .element e, .element other => e.Embeds other
  | .text content, .text other => content = other
  | _, _ => False

/-- Nodes are found one by one at the beginning of others. -/
def NodesEmbed : List Node → List Node → Prop
  | [], _ => True
  | node :: nodes, other :: others => node.Embeds other ∧ NodesEmbed nodes others
  | _ :: _, [] => False

end

mutual

theorem Element.Embeds.refl : (e : Element) → e.Embeds e
  | ⟨_, _, children⟩ => ⟨rfl, rfl, NodesEmbed.refl children⟩

theorem Node.Embeds.refl : (node : Node) → node.Embeds node
  | .element e => Element.Embeds.refl e
  | .text _ => rfl

theorem NodesEmbed.refl : (nodes : List Node) → NodesEmbed nodes nodes
  | [] => trivial
  | node :: nodes => ⟨Node.Embeds.refl node, NodesEmbed.refl nodes⟩

end

mutual

theorem Element.Embeds.trans : {a b c : Element} → a.Embeds b → b.Embeds c → a.Embeds c
  | ⟨_, _, _⟩, ⟨_, _, _⟩, _, ⟨name, attributes, children⟩, ⟨name', attributes', children'⟩ =>
    ⟨name.trans name', attributes.trans attributes', children.trans children'⟩

theorem Node.Embeds.trans : {a b c : Node} → a.Embeds b → b.Embeds c → a.Embeds c
  | .element _, .element _, .element _, first, second => Element.Embeds.trans first second
  | .text _, .text _, .text _, first, second => Eq.trans first second

theorem NodesEmbed.trans : {as bs cs : List Node} → NodesEmbed as bs → NodesEmbed bs cs →
    NodesEmbed as cs
  | [], _, _, _, _ => trivial
  | _ :: _, _ :: _, _ :: _, ⟨node, nodes⟩, ⟨node', nodes'⟩ =>
    ⟨node.trans node', nodes.trans nodes'⟩

end

/-- Nodes are found in front of further nodes. -/
theorem NodesEmbed.append (nodes more : List Node) : NodesEmbed nodes (nodes ++ more) := by
  induction nodes with
  | nil => trivial
  | cons node nodes ih => exact ⟨Node.Embeds.refl node, ih⟩

/-- Nodes one of which grows. -/
theorem NodesEmbed.set {nodes : List Node} {i : Nat} {node grown : Node}
    (found : nodes[i]? = some node) (grows : node.Embeds grown) :
    NodesEmbed nodes (nodes.set i grown) := by
  induction nodes generalizing i with
  | nil => cases found
  | cons first nodes ih =>
      cases i with
      | zero =>
          obtain rfl := Option.some.inj found
          exact ⟨grows, NodesEmbed.refl nodes⟩
      | succ i => exact ⟨Node.Embeds.refl first, ih found⟩

/-- A node is found again at its position. -/
theorem NodesEmbed.getElem? {nodes others : List Node} (embeds : NodesEmbed nodes others) {i : Nat}
    {node : Node} (found : nodes[i]? = some node) :
    ∃ other, others[i]? = some other ∧ node.Embeds other := by
  induction nodes generalizing others i with
  | nil => cases found
  | cons first nodes ih =>
      cases others with
      | nil => cases embeds
      | cons other others =>
          cases i with
          | zero =>
              obtain rfl := Option.some.inj found
              exact ⟨other, rfl, embeds.1⟩
          | succ i => exact ih embeds.2 found

namespace Element

theorem embeds_iff {e other : Element} :
    e.Embeds other ↔ e.name = other.name ∧ e.attributes = other.attributes ∧
      NodesEmbed e.children other.children := by
  cases e
  rfl

/-- **Addresses in a document that has grown** lead to what their elements have grown into. -/
theorem Embeds.at? {doc grown e : Element} (embeds : doc.Embeds grown) {address : Address}
    (found : doc.at? address = some e) : ∃ f, grown.at? address = some f ∧ e.Embeds f := by
  induction address generalizing doc grown with
  | nil =>
      obtain rfl := Option.some.inj found
      exact ⟨grown, rfl, embeds⟩
  | cons i rest ih =>
      obtain ⟨child, present, found⟩ := at?_cons_eq_some_iff.mp found
      obtain ⟨other, there, same⟩ := (embeds_iff.mp embeds).2.2.getElem? present
      cases other with
      | text content => cases same
      | element other =>
          obtain ⟨f, leads, grows⟩ := ih same found
          exact ⟨f, at?_cons_eq_some_iff.mpr ⟨other, there, leads⟩, grows⟩

/-- An element with more children is what it was, with more behind. -/
theorem embeds_withChildren (e : Element) (more : List Element) :
    e.Embeds (e.withChildren more) :=
  embeds_iff.mpr ⟨rfl, rfl, NodesEmbed.append e.children _⟩

/-! ### Changing one element -/

/-- What a change within a child does to an element. -/
theorem update?_cons_eq_some_iff {change : Element → Element} {doc changed : Element} {i : Nat}
    {rest : Address} :
    doc.update? change (i :: rest) = some changed ↔ ∃ child grown,
      doc.children[i]? = some (.element child) ∧ child.update? change rest = some grown ∧
        changed = { doc with children := doc.children.set i (.element grown) } := by
  rw [update?]
  cases doc.children[i]? with
  | none => simp
  | some node => cases node <;> simp [eq_comm]

/-- An element that is there can be changed. -/
theorem exists_update? {doc e : Element} {address : Address} (change : Element → Element)
    (found : doc.at? address = some e) : ∃ changed, doc.update? change address = some changed := by
  induction address generalizing doc with
  | nil => exact ⟨change doc, rfl⟩
  | cons i rest ih =>
      obtain ⟨child, present, found⟩ := at?_cons_eq_some_iff.mp found
      obtain ⟨changed, updated⟩ := ih found
      simp only [update?_cons_eq_some_iff]
      exact ⟨_, child, changed, present, updated, rfl⟩

/-- A document grows if one of its elements does. -/
theorem update?_embeds {change : Element → Element} (grows : ∀ e : Element, e.Embeds (change e))
    {doc changed : Element} {address : Address}
    (updated : doc.update? change address = some changed) : doc.Embeds changed := by
  induction address generalizing doc changed with
  | nil =>
      obtain rfl := Option.some.inj updated
      exact grows doc
  | cons i rest ih =>
      rw [update?_cons_eq_some_iff] at updated
      obtain ⟨child, grown, present, within, rfl⟩ := updated
      exact embeds_iff.mpr ⟨rfl, rfl, NodesEmbed.set present (ih within)⟩

end Element

/-! ### Counting -/

theorem countNodes_append (first second : List Node) :
    countNodes (first ++ second) = countNodes first + countNodes second := by
  induction first with
  | nil => simp [countNodes]
  | cons node first ih => cases node <;> simp [countNodes, ih, Nat.add_assoc]

theorem countNodes_map_element (elements : List Element) :
    countNodes (elements.map .element) = (elements.map Element.count).sum := by
  induction elements with
  | nil => rfl
  | cons e elements ih => simp [countNodes, ih]

/-- Nodes one of which is another element count what that counts in place of the first. -/
theorem countNodes_set {nodes : List Node} {i : Nat} {child : Element} (other : Element)
    (found : nodes[i]? = some (.element child)) :
    countNodes (nodes.set i (.element other)) + child.count = countNodes nodes + other.count := by
  induction nodes generalizing i with
  | nil => cases found
  | cons node nodes ih =>
      cases i with
      | zero =>
          obtain rfl := Option.some.inj found
          simp only [List.set_cons_zero, countNodes]
          omega
      | succ i =>
          have later := ih found
          cases node <;> simp only [List.set_cons_succ, countNodes] <;> omega

namespace Element

theorem count_eq (e : Element) : e.count = countNodes e.children + 1 := by
  cases e
  rfl

/-- What is put behind the children of one element is what is counted in addition. -/
theorem update?_count {more : List Element} {doc changed : Element} {address : Address}
    (updated : doc.update? (·.withChildren more) address = some changed) :
    changed.count = doc.count + (more.map count).sum := by
  induction address generalizing doc changed with
  | nil =>
      obtain rfl := Option.some.inj updated
      simp only [count_eq, withChildren, countNodes_append, countNodes_map_element]
      omega
  | cons i rest ih =>
      rw [update?_cons_eq_some_iff] at updated
      obtain ⟨child, grown, present, within, rfl⟩ := updated
      have replaced := countNodes_set grown present
      have counted := ih within
      simp only [count_eq doc, count_eq] at replaced counted ⊢
      omega

end Element

namespace NodePath

/-- What a path selects first is there. -/
theorem exists_of_selectFirst {path : NodePath} {doc : Element} {address : Address}
    (first : path.selectFirst doc = some address) : ∃ e, doc.at? address = some e := by
  obtain ⟨place, listed, same⟩ := List.mem_map.mp (List.mem_of_head? first)
  exact ⟨place.element, same ▸ (selectPlaces_listed path doc).1.sound place listed⟩

end NodePath

end DocPipeline
