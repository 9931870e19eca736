import DocPipeline.Document.Element
import DocPipeline.Document.Reference

/-!
# Writing documents

The text of a document without any layout: attributes in order and in double quotes, special
characters as references, names as they are. An element without children is a single tag.

## Main definitions

* `Element.toXml`: the text of a document.
-/

namespace DocPipeline

namespace Markup

/-- An attribute with the space in front of it. -/
def writeAttribute (pair : String × String) : List Char :=
  ' ' :: pair.1.toList ++ '=' :: '"' :: escape pair.2.toList ++ ['"']

mutual

/-- The text of an element. -/
def writeElement : Element → List Char
  | ⟨name, attributes, children⟩ =>
    '<' :: name.toList ++ attributes.flatMap writeAttribute ++
      match children with
      | [] => ['/', '>']
      | first :: others =>
        '>' :: writeNodes (first :: others) ++ '<' :: '/' :: name.toList ++ ['>']

/-- The text of a list of nodes. -/
def writeNodes : List Node → List Char
  | [] => []
  | .text content :: rest => escape content.toList ++ writeNodes rest
  | .element e :: rest => writeElement e ++ writeNodes rest

end

end Markup

/-- The text of a document. -/
def Element.toXml (e : Element) : String := String.ofList (Markup.writeElement e)

end DocPipeline
