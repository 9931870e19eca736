import DocPipeline.Document.Selection
import DocPipeline.Failure

/-!
# Splicing documents

Copies of the elements that a path selects in one document are appended to the first element that a
path selects in another.

## Main definitions

* `Element.splice`: a document with the selected elements of another appended.
* `Element.spliceInto`: the same on a document that is kept, whether it succeeds or not.
-/

namespace DocPipeline

namespace Element

/-- The elements that a path selects, in document order. -/
def selected (doc : Element) (path : NodePath) : List Element :=
  (path.select doc).filterMap doc.at?

/-- An element with further elements behind its children. -/
def withChildren (e : Element) (more : List Element) : Element :=
  { e with children := e.children ++ more.map .element }

/-- A document with the selected elements of another appended, and how many they are. When there
is nothing to append, the destination need not be there. -/
def splice (dest source : Element) (sourcePath destPath : NodePath) :
    Except MergeError (Element × Nat) :=
  match source.selected sourcePath with
  | [] => .ok (dest, 0)
  | first :: rest =>
    match (destPath.selectFirst dest).bind (dest.update? (·.withChildren (first :: rest))) with
    | some merged => .ok (merged, rest.length + 1)
    | none => .error (.unmatchedDestination destPath.toString)

/-! ### In place -/

/-- A document with one more element behind the children of the element at an address. Where the
address leads to none, the document stays as it is. -/
def appendAt (address : Address) (child doc : Element) : Element :=
  (doc.update? (·.withChild child) address).getD doc

/-- The address of the first element that a path selects, provided that it leads to an element. -/
def target? (doc : Element) (path : NodePath) : Option Address :=
  (path.selectFirst doc).filter fun address => (doc.at? address).isSome

/-- Splicing into a document that is kept: the selected elements of another are appended to it one
after the other. The answer is how many they are, or why there is no place for them. -/
def spliceInto (source : Element) (sourcePath destPath : NodePath) :
    ExceptT MergeError (StateM Element) Nat := do
  let selected := source.selected sourcePath
  if selected.isEmpty then return 0
  let dest ← get
  match dest.target? destPath with
  | none => throw (.unmatchedDestination destPath.toString)
  | some address =>
    selected.forM fun e => modify (appendAt address e)
    return selected.length

end Element

end DocPipeline
