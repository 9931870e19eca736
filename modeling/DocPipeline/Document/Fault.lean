/-!
# Faults of document texts

Why a text is no document. Three kinds are told apart: markup that cannot be cut into tags and
the like, tags and text whose content cannot be read, and pieces that do not fit together to one
element.
-/

namespace DocPipeline

/-- The kinds of markup that run up to a closing mark. -/
inductive MarkupKind where
  | tag
  | comment
  | cdata
  | doctype
  | instruction
deriving DecidableEq, Repr

/-- Why a text cannot be cut into pieces of markup. -/
inductive MarkupFault where
  /-- The text ends behind an opening bracket. -/
  | loneBracket
  /-- The closing mark is missing. -/
  | unclosed (kind : MarkupKind)
  /-- The opening mark of a declaration is none of those known. -/
  | unknownDeclaration
  /-- A document type declaration does not name a type. -/
  | unnamedDoctype
  /-- An instruction consists of a question mark only. -/
  | emptyInstruction
  /-- A closing tag does not name the innermost open element. -/
  | mismatchedClose (expected found : String)
  /-- A closing tag stands where no element is open. -/
  | strayClose (found : String)
deriving DecidableEq, Repr

/-- Why the content of a tag or of text cannot be read. -/
inductive ContentFault where
  /-- The key of an attribute has no equals sign behind it. -/
  | missingEquals (key : String)
  /-- The value of an attribute does not start with a quote. -/
  | missingQuote (key : String)
  /-- The value of an attribute does not end. -/
  | unclosedValue (key : String)
  /-- A tag has two attributes with one key. -/
  | repeatedKey (key : String)
  /-- A reference stands for no character. -/
  | badReference
deriving DecidableEq, Repr

/-- Why a text, or whatever else was taken for a document, is none. -/
inductive DocumentFault where
  | markup (fault : MarkupFault)
  | content (fault : ContentFault)
  /-- The text ends while elements are open. -/
  | unfinished
  /-- The text holds no element. -/
  | noRoot
  /-- The text holds a second element beside the first. -/
  | manyRoots
  /-- Text stands outside the element. -/
  | strayText
  /-- There is no data at all. -/
  | emptyPayload
  /-- The data are bytes that encode no text. -/
  | notUtf8
  /-- A fault in the words of whoever found it. -/
  | stated (reason : String)
deriving DecidableEq, Repr

/-! ### Wording -/

/-- What a kind of markup is called. -/
def MarkupKind.label : MarkupKind → String
  | .tag => "tag"
  | .comment => "comment"
  | .cdata => "character data section"
  | .doctype => "document type declaration"
  | .instruction => "processing instruction"

/-- A fault of markup in words. -/
def MarkupFault.message : MarkupFault → String
  | .loneBracket => "nothing follows an opening bracket"
  | .unclosed kind => s!"{kind.label} is not closed"
  | .unknownDeclaration => "unknown kind of declaration"
  | .unnamedDoctype => "document type declaration without a name"
  | .emptyInstruction => "empty processing instruction"
  | .mismatchedClose expected found => s!"expected closing tag '{expected}', found '{found}'"
  | .strayClose found => s!"closing tag '{found}' without an open element"

/-- A fault of content in words. -/
def ContentFault.message : ContentFault → String
  | .missingEquals key => s!"attribute '{key}' has no value"
  | .missingQuote key => s!"value of attribute '{key}' is not quoted"
  | .unclosedValue key => s!"value of attribute '{key}' does not end"
  | .repeatedKey key => s!"attribute '{key}' is repeated"
  | .badReference => "unknown character reference"

/-- A fault in words. -/
def DocumentFault.message : DocumentFault → String
  | .markup fault => s!"ill-formed markup: {fault.message}"
  | .content fault => fault.message
  | .unfinished => "unexpected end of document"
  | .noRoot => "document has no root element"
  | .manyRoots => "multiple root elements"
  | .strayText => "text outside of root element"
  | .emptyPayload => "payload is empty"
  | .notUtf8 => "payload is not UTF-8"
  | .stated reason => reason

end DocPipeline
