import DocPipeline.Document.Coding
import DocPipeline.Document.Parse
import DocPipeline.Document.Write
import DocPipeline.Failure

/-!
# Payloads

The data that pass between stages: nothing, bytes, text or a document. Text and bytes can be taken
for documents if that is what they write.

## Main definitions

* `Payload.document`: the document that a payload is or writes, or why there is none.
* `Payload.asDocumentOrBytes`: the document that a payload writes, or its bytes.
-/

namespace DocPipeline

/-- The data that a stage takes or gives. -/
inductive Payload where
  | empty
  | bytes (content : List UInt8)
  | text (content : String)
  | document (root : Element)
deriving DecidableEq

namespace Payload

instance : Inhabited Payload := ⟨.empty⟩

/-- The name of the kind of a payload. -/
def kind : Payload → String
  | .empty => "empty"
  | .bytes _ => "bytes"
  | .text _ => "text"
  | .document _ => "document"

/-- Whether there are no data. A document always is something. -/
def isEmpty : Payload → Bool
  | .empty => true
  | .bytes content => content.isEmpty
  | .text content => content.isEmpty
  | .document _ => false

/-! ### Documents -/

/-- The text that bytes encode in UTF-8, if they do. -/
def textOfBytes? (content : List UInt8) : Option String :=
  String.fromUTF8? ⟨content.toArray⟩

/-- The bytes of a text in UTF-8. -/
def bytesOfText (content : String) : List UInt8 := content.toUTF8.data.toList

/-- The document that a payload already is. -/
def asDocument? : Payload → Option Element
  | .document root => some root
  | _ => none

/-- The document that a payload is or writes, or why there is none. -/
def toDocument : Payload → Except DocumentFault Element
  | .document root => .ok root
  | .text content => Element.parse content
  | .bytes content =>
    match textOfBytes? content with
    | some written => Element.parse written
    | none => .error .notUtf8
  | .empty => .error .emptyPayload

/-- Text or bytes as the document that they write, or as bytes if they write none. Other payloads
stay as they are. -/
def asDocumentOrBytes : Payload → Payload
  | .text content =>
    match Element.parse content with
    | .ok root => .document root
    | .error _ => .bytes (bytesOfText content)
  | .bytes content =>
    match (textOfBytes? content).map Element.parse with
    | some (.ok root) => .document root
    | _ => .bytes content
  | other => other

/-! ### Values -/

/-- A payload as a value. -/
def toJson : Payload → Json
  | .empty => .obj [("type", .str "empty")]
  | .bytes content =>
    .obj [("type", .str "bytes"), ("value", .arr (content.map fun b => .int b.toNat))]
  | .text content => .obj [("type", .str "text"), ("value", .str content)]
  | .document root => .obj [("type", .str "document"), ("value", root.toJson)]

/-- The payload that a value gives. -/
def ofJson? (json : Json) : Option Payload := do
  let (kind, value) ← Json.tagged? "type" "value" json
  if kind = "empty" then
    match value with
    | none | some .null => some .empty
    | some _ => none
  else if kind = "bytes" then (value.bind (Json.items? Json.byte?)).map .bytes
  else if kind = "text" then (value.bind Json.text?).map .text
  else if kind = "document" then (value.bind Element.ofJson?).map .document
  else none

end Payload

end DocPipeline
