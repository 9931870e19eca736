import DocPipeline.Payload.Basic
import DocPipeline.Text.Base64

/-!
# Previews of payloads

How a payload looks in a log: a document as its text, text as it is, and bytes as their number and
the first of them in base 64.
-/

namespace DocPipeline.Payload

/-- How many bytes a preview shows. -/
def previewSize : Nat := 64

/-- A payload as it is shown in a log. -/
def preview : Payload → String
  | .empty => "<empty>"
  | .text content => content
  | .document root => root.toXml
  | .bytes content =>
    s!"{content.length} bytes: " ++ String.ofList (Text.base64 (content.take previewSize)) ++
      if previewSize < content.length then "..." else ""

end DocPipeline.Payload
