import DocPipeline.Document.Element
import DocPipeline.Json.Value

/-!
# Documents as values

The JSON form of documents. Empty lists of attributes and children are left out.

## Main definitions

* `Element.toJson`, `Node.toJson`: documents as values.
* `Element.ofJson?`, `Node.ofJson?`: the documents that values give.
-/

namespace DocPipeline

/-- An attribute as a pair of texts. -/
def attributeToJson (pair : String × String) : Json := .arr [.str pair.1, .str pair.2]

/-- The attribute that a pair of texts gives. -/
def attributeOfJson? : Json → Option (String × String)
  | .arr [.str key, .str value] => some (key, value)
  | _ => none

/-! ### Writing -/

mutual

/-- A document as a value. -/
def Element.toJson : Element → Json
  | ⟨name, attributes, children⟩ =>
    .obj (("name", .str name) ::
      (match attributes with
        | [] => []
        | first :: rest => [("attributes", .arr ((first :: rest).map attributeToJson))]) ++
      match children with
        | [] => []
        | first :: rest => [("children", .arr (nodesToJson (first :: rest)))])

/-- A node as a value. -/
def Node.toJson : Node → Json
  | .element e => .obj [("element", e.toJson)]
  | .text content => .obj [("text", .str content)]

/-- Nodes as values. -/
def nodesToJson : List Node → List Json
  | [] => []
  | node :: rest => node.toJson :: nodesToJson rest

end

/-! ### Reading -/

mutual

/-- The document that a value gives. -/
def Element.ofJson? : Json → Option Element
  | .obj fields => do
    some
      { name := ← Json.required fields "name" Json.text?
        attributes := ← Json.orElse fields "attributes" (Json.items? attributeOfJson?) []
        children := ← childrenField? fields }
  | .arr [.str name] => some ⟨name, [], []⟩
  | .arr [.str name, attributes] => do
    some ⟨name, ← Json.items? attributeOfJson? attributes, []⟩
  | .arr [.str name, attributes, .arr children] => do
    some ⟨name, ← Json.items? attributeOfJson? attributes, ← nodesOfJson? children⟩
  | _ => none
termination_by structural json => json

/-- The node that a value gives: an object with one key, which says what kind of node it is. -/
def Node.ofJson? : Json → Option Node
  | .obj [(kind, value)] =>
    if kind = "element" then (Element.ofJson? value).map .element
    else if kind = "text" then (Json.text? value).map .text
    else none
  | _ => none
termination_by structural json => json

/-- The nodes that values give. -/
def nodesOfJson? : List Json → Option (List Node)
  | [] => some []
  | json :: rest => do
    let node ← Node.ofJson? json
    let nodes ← nodesOfJson? rest
    some (node :: nodes)
termination_by structural items => items

/-- The children that the fields of an element give, none if they do not mention them. -/
def childrenField? : List (String × Json) → Option (List Node)
  | [] => some []
  | (key, value) :: rest =>
    if key = "children" then
      match value with
      | .arr items => nodesOfJson? items
      | _ => none
    else childrenField? rest
termination_by structural fields => fields

end

end DocPipeline
