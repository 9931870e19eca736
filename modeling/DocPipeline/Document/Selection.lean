import DocPipeline.Document.Element
import DocPipeline.Document.Path

/-!
# Selecting elements

A path selects elements of a document step by step. The elements reached so far are a list of
places in document order without repetition, and each step leads from all of them at once.

## Main definitions

* `Place`: an element together with its address.
* `Place.within`: all elements within a list of pending places, in document order.
* `NodePath.select`: the addresses of the elements that a path selects.
-/

namespace DocPipeline

/-- An element of a document together with its address. -/
structure Place where
  address : Address
  element : Element

namespace Place

/-- The root of a document. -/
def root (doc : Element) : Place := ⟨[], doc⟩

/-- The places of the element children of a place. -/
def children (place : Place) : List Place :=
  place.element.childElements.map fun (i, child) => ⟨place.address ++ [i], child⟩

/-! ### Going down -/

/-- The number of elements within a list of places, those places included. -/
def total : List Place → Nat
  | [] => 0
  | place :: places => place.element.count + total places

/-- Two lists of places together hold the elements of both. -/
theorem total_append (xs ys : List Place) : total (xs ++ ys) = total xs + total ys := by
  induction xs with
  | nil => simp [total]
  | cons x xs ih => simp [total, ih, Nat.add_assoc]

/-- The children of an element hold all of its elements but itself. -/
theorem total_childElementsFrom (address : Address) (start : Nat) (nodes : List Node) :
    total ((Element.childElementsFrom start nodes).map fun (i, child) =>
      ⟨address ++ [i], child⟩) = countNodes nodes := by
  induction nodes generalizing start with
  | nil => rfl
  | cons node nodes ih =>
    cases node with
    | text content => simpa [Element.childElementsFrom, countNodes] using ih (start + 1)
    | element e => simp [Element.childElementsFrom, countNodes, total, ih (start + 1)]

/-- The children of a place hold one element fewer than the place. -/
theorem total_children (place : Place) : total place.children + 1 = place.element.count := by
  obtain ⟨address, name, attributes, nodes⟩ := place
  simp only [children, Element.childElements, total_childElementsFrom, Element.count]

/-- All elements within a list of places, those places included, in document order: the first
pending place, then what is within it, then the others. -/
def within : (pending : List Place) → List Place
  | [] => []
  | place :: pending => place :: within (place.children ++ pending)
termination_by pending => total pending
decreasing_by
  have := total_children place
  simp only [total, total_append]
  omega

/-- The places that an axis leads to. -/
def reach (place : Place) : Axis → List Place
  | .child => place.children
  | .descendant => within place.children

/-! ### Gathering -/

/-- The places of two lists in document order, each once, if both lists are so. -/
def union : List Place → List Place → List Place
  | [], ys => ys
  | xs, [] => xs
  | x :: xs, y :: ys =>
    if x.address < y.address then x :: union xs (y :: ys)
    else if y.address < x.address then y :: union (x :: xs) ys
    else x :: union xs ys
termination_by xs ys => xs.length + ys.length

end Place

/-- A test accepts every element, or those of one name. -/
def NameTest.accepts : NameTest → Element → Bool
  | .any, _ => true
  | .named name, e => e.name == name

namespace NodePath

/-- The places where the first test of a path looks. -/
def startPlaces (doc : Element) : Origin → List Place
  | .root => [Place.root doc]
  | .anywhere => Place.within [Place.root doc]
  | .belowRoot => (Place.root doc).children

/-- The places that one step leads to from all the places reached so far. -/
def advance (places : List Place) (step : PathStep) : List Place :=
  places.foldr (fun place reached =>
    Place.union ((place.reach step.axis).filter fun p => step.test.accepts p.element) reached) []

/-- The places that a path selects, in document order. -/
def selectPlaces (path : NodePath) (doc : Element) : List Place :=
  path.rest.foldl advance
    ((startPlaces doc path.origin).filter fun place => path.first.accepts place.element)

/-- The addresses of the elements that a path selects, in document order. -/
def select (path : NodePath) (doc : Element) : List Address :=
  (path.selectPlaces doc).map (·.address)

/-- The address of the first element that a path selects. -/
def selectFirst (path : NodePath) (doc : Element) : Option Address := (path.select doc).head?

end NodePath

end DocPipeline
