import DocPipeline.Document.Coding
import DocPipeline.Proofs.Document.Address
import DocPipeline.Proofs.Json.Arrangement

/-!
# Documents read back from values

A document written as a value is the document that the value gives, however deep it is and whatever
its attributes, texts and elements are. That holds for the value as it is written and for any
arrangement of its fields. Lists of attributes or children that are left out are empty.

## Main definitions

* `Element.Writes`: under which names the parts of an element are found.

## Main results

* `Element.ofJson?_obj`: an element is read from the fields of an object.
* `Element.ofJson?_arrange`: documents read back, by induction on the document.
-/

namespace DocPipeline

open Json (Arranges Restores field?)

/-! ### Attributes and children -/

/-- An attribute is read back. -/
theorem attributeOfJson?_arrange {arrange : Json → Json} (arranges : Arranges arrange)
    (pair : String × String) : attributeOfJson? (arrange (attributeToJson pair)) = some pair := by
  rw [attributeToJson, arranges.arr, List.map_cons, List.map_cons, List.map_nil, arranges.str,
    arranges.str, attributeOfJson?]

theorem nodesToJson_eq_map (nodes : List Node) : nodesToJson nodes = nodes.map Node.toJson := by
  induction nodes with
  | nil => rfl
  | cons node nodes ih => rw [nodesToJson, List.map_cons, ih]

theorem nodesOfJson?_eq_mapM (values : List Json) :
    nodesOfJson? values = values.mapM Node.ofJson? := by
  induction values with
  | nil => rfl
  | cons value values ih =>
      rw [nodesOfJson?, List.mapM_cons, ih]
      rfl

theorem childrenField?_cons (key : String) (value : Json) (fields : List (String × Json)) :
    childrenField? ((key, value) :: fields) =
      if key = "children" then Json.items? Node.ofJson? value else childrenField? fields := by
  cases value <;> rw [childrenField?.eq_def] <;> simp only [Json.items?, nodesOfJson?_eq_mapM]

/-- The children of an element are a list of nodes under their name, or none. -/
theorem childrenField?_eq (fields : List (String × Json)) :
    childrenField? fields = Json.orElse fields "children" (Json.items? Node.ofJson?) [] := by
  induction fields with
  | nil => rfl
  | cons head fields ih =>
      obtain ⟨key, value⟩ := head
      rw [childrenField?_cons, Json.orElse, Json.field?_cons]
      split
      · rfl
      · exact ih

/-- A node is read back if the element that it holds is, should it hold one. -/
theorem Node.ofJson?_arrange_of {arrange : Json → Json} (arranges : Arranges arrange) {node : Node}
    (within : ∀ e, node = .element e → Element.ofJson? (arrange e.toJson) = some e) :
    Node.ofJson? (arrange node.toJson) = some node := by
  cases node with
  | element e =>
      rw [Node.toJson, arranges.single, Node.ofJson?, if_pos rfl, within e rfl]
      rfl
  | text content =>
      rw [Node.toJson, arranges.single, arranges.str, Node.ofJson?, if_neg (by decide), if_pos rfl]
      rfl

/-! ### Elements -/

namespace Element

/-- An element is read from the fields of an object, in whatever order they are listed. -/
theorem ofJson?_obj (fields : List (String × Json)) :
    ofJson? (.obj fields) =
      (Json.required fields "name" Json.text?).bind fun name =>
        (Json.orElse fields "attributes" (Json.items? attributeOfJson?) []).bind fun attributes =>
          (Json.orElse fields "children" (Json.items? Node.ofJson?) []).map fun children =>
            ⟨name, attributes, children⟩ := by
  rw [ofJson?, childrenField?_eq]
  simp only [bind, Option.map_eq_bind]
  rfl

/-- The fields of an element hold its parts, as far as they are not empty. -/
structure Writes (e : Element) (fields : List (String × Json)) : Prop where
  name : field? fields "name" = some (.str e.name)
  attributes : field? fields "attributes" =
    if e.attributes.isEmpty then none else some (.arr (e.attributes.map attributeToJson))
  children : field? fields "children" =
    if e.children.isEmpty then none else some (.arr (e.children.map Node.toJson))

theorem toJson_writes (e : Element) : ∃ fields, e.toJson = .obj fields ∧ e.Writes fields := by
  obtain ⟨name, attributes, children⟩ := e
  refine ⟨_, toJson.eq_def _, ?_⟩
  constructor <;> cases attributes <;> cases children <;> simp [nodesToJson_eq_map]

/-- **Documents read back.** However the fields are arranged in which a document is written, they
give the document. -/
theorem ofJson?_arrange {arrange : Json → Json} (arranges : Arranges arrange) :
    Restores (fun e => arrange e.toJson) ofJson? := by
  intro e
  induction e using Element.induction with
  | step e ih =>
      obtain ⟨fields, written, writes⟩ := e.toJson_writes
      obtain ⟨arranged, same, found⟩ := arranges.obj fields
      have nodes : ∀ node ∈ e.children, Node.ofJson? (arrange node.toJson) = some node := by
        intro node mem
        exact Node.ofJson?_arrange_of arranges fun child same => ih child (same ▸ mem)
      have name : field? arranged "name" = some (.str e.name) := by
        rw [found, writes.name, Option.map_some, arranges.str]
      have attributes := arranges.orElse_list
        (fun pair (_ : pair ∈ e.attributes) => attributeOfJson?_arrange arranges pair)
        ((found "attributes").trans (congrArg _ writes.attributes))
      have children := arranges.orElse_list nodes
        ((found "children").trans (congrArg _ writes.children))
      simp only [written, same, ofJson?_obj, Json.required_eq Json.text_restores name, attributes,
        children]
      cases e
      rfl

end Element

end DocPipeline
