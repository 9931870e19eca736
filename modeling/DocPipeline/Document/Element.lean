/-!
# Document trees

A document is a tree of elements with attributes and text. An element within a document is named
by its address: the child positions that lead from the root down to it.

## Main definitions

* `Element`, `Node`: the trees.
* `Address`, `Element.at?`: addresses and the elements that they name.
* `Element.update?`: a document with the element at one address changed.
* `Element.childElements`: the element children with their positions among all children.
-/

namespace DocPipeline

mutual

/-- A child of an element: an element of its own, or text. -/
inductive Node where
  | element (element : Element)
  | text (content : String)

/-- An element of a document. Attributes and children keep their order. -/
structure Element where
  name : String
  attributes : List (String × String) := []
  children : List Node := []

end

instance : Inhabited Element := ⟨⟨"", [], []⟩⟩

/-! ### Equality -/

mutual

/-- Equality of elements is decided name by name, attribute by attribute, child by child. -/
def Element.decEq : (a b : Element) → Decidable (a = b)
  | ⟨m, xs, cs⟩, ⟨n, ys, ds⟩ =>
    have := decEqNodes cs ds
    decidable_of_iff (m = n ∧ xs = ys ∧ cs = ds) (by simp)

/-- Equality of nodes. -/
def Node.decEq : (a b : Node) → Decidable (a = b)
  | .element e, .element f => have := Element.decEq e f; decidable_of_iff (e = f) (by simp)
  | .text s, .text t => decidable_of_iff (s = t) (by simp)
  | .element _, .text _ => isFalse nofun
  | .text _, .element _ => isFalse nofun

/-- Equality of lists of nodes. -/
def decEqNodes : (xs ys : List Node) → Decidable (xs = ys)
  | [], [] => isTrue rfl
  | [], _ :: _ => isFalse nofun
  | _ :: _, [] => isFalse nofun
  | x :: xs, y :: ys =>
    have := Node.decEq x y
    have := decEqNodes xs ys
    decidable_of_iff (x = y ∧ xs = ys) (by simp)

end

instance : DecidableEq Element := Element.decEq

instance : DecidableEq Node := Node.decEq

/-! ### Size -/

mutual

/-- The number of elements in a document, its root included. -/
def Element.count : Element → Nat
  | ⟨_, _, children⟩ => countNodes children + 1

/-- The number of elements in a list of nodes, at any depth. -/
def countNodes : List Node → Nat
  | [] => 0
  | .text _ :: rest => countNodes rest
  | .element e :: rest => e.count + countNodes rest

end

/-! ### Addresses -/

/-- The child positions that lead from a root down to an element; the root has the empty address.
The lexicographic order of addresses is document order. -/
abbrev Address := List Nat

namespace Element

/-- The element at an address, if the address leads to one. -/
def at? : Element → Address → Option Element
  | e, [] => some e
  | e, i :: rest =>
    match e.children[i]? with
    | some (.element child) => child.at? rest
    | _ => none

/-- A document with the element at one address changed, if the address leads to one. -/
def update? (change : Element → Element) : Element → Address → Option Element
  | e, [] => some (change e)
  | e, i :: rest =>
    match e.children[i]? with
    | some (.element child) =>
      (child.update? change rest).map fun child =>
        { e with children := e.children.set i (.element child) }
    | _ => none

/-! ### Looking at one element -/

/-- The element children of a list of nodes with their positions, counted from `start`. -/
def childElementsFrom (start : Nat) : List Node → List (Nat × Element)
  | [] => []
  | .text _ :: rest => childElementsFrom (start + 1) rest
  | .element e :: rest => (start, e) :: childElementsFrom (start + 1) rest

/-- The element children with their positions among all children. -/
def childElements (e : Element) : List (Nat × Element) := childElementsFrom 0 e.children

/-- The value of an attribute; of two attributes with one key the first counts. -/
def attribute? (e : Element) (key : String) : Option String := e.attributes.lookup key

/-- The text children put together. -/
def text (e : Element) : String :=
  String.join (e.children.filterMap fun
    | .text content => some content
    | .element _ => none)

/-! ### Building -/

/-- An element with one more attribute behind the others. -/
def withAttribute (e : Element) (key value : String) : Element :=
  { e with attributes := e.attributes ++ [(key, value)] }

/-- An element with one more node behind its children. -/
def withNode (e : Element) (node : Node) : Element :=
  { e with children := e.children ++ [node] }

/-- An element with one more element behind its children. -/
def withChild (e child : Element) : Element := e.withNode (.element child)

/-- An element with text behind its children. -/
def withText (e : Element) (content : String) : Element := e.withNode (.text content)

end Element

end DocPipeline
