import DocPipeline.Document.Attribute
import DocPipeline.Document.Element
import DocPipeline.Text.Blank

/-!
# Reading documents

A document is put together from the tokens of its text, one token at a time and in order. Blank
runs of text are dropped and other text is kept as it is written; a character data section always
is a text node. Outside the one element only blank text may stand.

## Main definitions

* `Element.parse`: the document that a text writes, or the first fault.
-/

namespace DocPipeline

namespace Markup

/-- A document read in part: the elements still open, innermost first and their children latest
first, and the finished root. -/
structure Assembly where
  opened : List Element
  root : Option Element

namespace Assembly

/-- Before the first token nothing is there. -/
def start : Assembly := ⟨[], none⟩

/-- The element that a tag starts, without children. -/
def tagElement (tag : List Char) : Except DocumentFault Element :=
  match readAttributes (tagRest tag) with
  | .ok attributes => .ok ⟨String.ofList (tagName tag), attributes, []⟩
  | .error fault => .error (.content fault)

/-- A finished element goes into the innermost open one, or is the root if there is none yet. -/
def attach (assembly : Assembly) (element : Element) : Except DocumentFault Assembly :=
  match assembly.opened with
  | parent :: rest =>
    .ok { assembly with
      opened := { parent with children := .element element :: parent.children } :: rest }
  | [] =>
    match assembly.root with
    | none => .ok { assembly with root := some element }
    | some _ => .error .manyRoots

/-- Text goes into the innermost open element; outside of elements it has to be blank. -/
def addText (assembly : Assembly) (content : List Char) : Except DocumentFault Assembly :=
  match assembly.opened with
  | parent :: rest =>
    .ok { assembly with
      opened := { parent with
        children := .text (String.ofList content) :: parent.children } :: rest }
  | [] => if content.all Text.isBlankChar then .ok assembly else .error .strayText

/-- The innermost open element ends, by a tag that names it. -/
def closeElement (assembly : Assembly) (name : List Char) : Except DocumentFault Assembly :=
  match assembly.opened with
  | [] => .error (.markup (.strayClose (String.ofList name)))
  | innermost :: rest =>
    if String.ofList name = innermost.name then
      attach { assembly with opened := rest }
        { innermost with children := innermost.children.reverse }
    else .error (.markup (.mismatchedClose innermost.name (String.ofList name)))

/-- One more token. -/
def step (assembly : Assembly) : Token → Except DocumentFault Assembly
  | .openTag tag => do
      let element ← tagElement tag
      .ok { assembly with opened := element :: assembly.opened }
  | .emptyTag tag => do
      let element ← tagElement tag
      assembly.attach element
  | .closeTag name => assembly.closeElement name
  | .text raw =>
    match unescape? raw with
    | none => .error (.content .badReference)
    | some content =>
      if content.all Text.isBlankChar then .ok assembly else assembly.addText content
  | .cdata content => assembly.addText content
  | .ignored => .ok assembly
  | .broken fault => .error (.markup fault)

/-- The document, once all tokens are read. -/
def finish (assembly : Assembly) : Except DocumentFault Element :=
  match assembly.opened, assembly.root with
  | _ :: _, _ => .error .unfinished
  | [], some root => .ok root
  | [], none => .error .noRoot

end Assembly

/-- The document that tokens write, or the first fault. -/
def assemble (tokens : List Token) : Except DocumentFault Element := do
  let assembly ← tokens.foldlM Assembly.step Assembly.start
  assembly.finish

/-- A text without the byte order mark that may stand in front. -/
def withoutMark : List Char → List Char
  | c :: cs => if c = '\uFEFF' then cs else c :: cs
  | [] => []

end Markup

/-- The document that a text writes, or the first fault. -/
def Element.parse (text : String) : Except DocumentFault Element :=
  Markup.assemble (Markup.Token.scan (Markup.withoutMark text.toList))

end DocPipeline
