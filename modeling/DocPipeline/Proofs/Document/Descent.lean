import DocPipeline.Proofs.Document.Selection
import Mathlib.Data.List.Basic

/-!
# Everything below

How the elements below one element, or all elements of a document, are listed. The listing can be
made by a loop that keeps a stack of addresses: each round takes the address on top, lists it, and
puts the addresses of its children in its place, the last child first. No round comes back to an
element, so that there are as many rounds as there are elements to list; and as the children of an
element are taken before whatever lies deeper in the stack, the loop lists what a recursion lists
that goes through the children one after the other, and down into each of them.

## Main definitions

* `Element.addressesBelow`: the addresses below an element, by recursion on it.
* `NodePath.Context`, `NodePath.Context.reach`: where a step starts from and where it leads.
* `Descent`, `Descent.EndsAfter`: the loop.

## Main results

* `Place.map_address_within`: what is within some places, place by place.
* `Descent.endsAfter_within`: what the loop lists, whatever is on its stack.
* `NodePath.Context.descent_lists_subtree`: what is reached from a context.
-/

namespace DocPipeline

/-! ### Recursion -/

mutual

/-- The addresses of the elements below an element: each element child, and then what is below that
child. -/
def Element.addressesBelow : Element → List Address
  | ⟨_, _, children⟩ => addressesFrom 0 children

/-- The same for a list of children that starts at a position. -/
def addressesFrom (start : Nat) : List Node → List Address
  | [] => []
  | .text _ :: rest => addressesFrom (start + 1) rest
  | .element e :: rest => [start] :: e.addressesBelow.map (start :: ·) ++ addressesFrom (start + 1) rest

end

theorem addressesFrom_eq (start : Nat) (nodes : List Node) :
    addressesFrom start nodes = (Element.childElementsFrom start nodes).flatMap fun (i, child) =>
      [i] :: child.addressesBelow.map (i :: ·) := by
  induction nodes generalizing start with
  | nil => rfl
  | cons node nodes ih =>
      cases node with
      | text content => rw [addressesFrom, Element.childElementsFrom, ih]
      | element e => rw [addressesFrom, Element.childElementsFrom, ih, List.flatMap_cons]

/-- What is below an element, child by child. -/
theorem Element.addressesBelow_eq (e : Element) :
    e.addressesBelow = e.childElements.flatMap fun (i, child) => [i] :: child.addressesBelow.map (i :: ·) := by
  obtain ⟨name, attributes, children⟩ := e
  rw [addressesBelow, addressesFrom_eq, childElements]

namespace Place

/-- What is below a place: its children, and what is below them. -/
theorem flatMap_children_addresses (place : Place) :
    (place.children.flatMap fun child =>
        child.address :: child.element.addressesBelow.map (child.address ++ ·)) =
      place.element.addressesBelow.map (place.address ++ ·) := by
  rw [children, List.flatMap_map, Element.addressesBelow_eq, List.map_flatMap]
  refine List.flatMap_congr fun numbered _ => ?_
  obtain ⟨i, child⟩ := numbered
  rw [List.map_cons, List.map_map]
  refine congrArg _ (List.map_congr_left fun way _ => ?_)
  exact List.append_assoc ..

/-- **What is within some places** is, place by place, its address and what is below it. -/
theorem map_address_within (pending : List Place) :
    (within pending).map (·.address) = pending.flatMap fun place =>
      place.address :: place.element.addressesBelow.map (place.address ++ ·) := by
  induction pending using within.induct with
  | case1 =>
      rw [within]
      rfl
  | case2 place pending ih =>
      rw [within, List.map_cons, ih, List.flatMap_append, flatMap_children_addresses,
        List.flatMap_cons, List.cons_append]

/-- The children of a place of a document are places of it. -/
theorem sound_children {doc : Element} {place : Place}
    (sound : doc.at? place.address = some place.element) :
    ∀ child ∈ place.children, doc.at? child.address = some child.element := by
  intro child mem
  exact ((mem_reach_iff sound .child).mp mem).2

end Place

/-! ### Contexts -/

namespace NodePath

/-- Where a step starts from: above the root of a document, or an address in it. -/
inductive Context where
  | document
  | node (address : Address)

namespace Context

/-- The addresses that an axis leads to from a context; none, if there is no element. -/
def reach (doc : Element) : Context → Axis → List Address
  | .document, .child => (startPlaces doc .root).map (·.address)
  | .document, .descendant => (startPlaces doc .anywhere).map (·.address)
  | .node a, axis =>
    match doc.at? a with
    | some e => ((Place.mk a e).reach axis).map (·.address)
    | none => []

/-- What is below a context: all of a document, or what is properly within an element. -/
def Contains : Context → Address → Prop
  | .document, _ => True
  | .node a, b => Address.Contains a b

/-- The addresses below a context, by recursion on the element there. -/
def addressesBelow (doc : Element) : Context → List Address
  | .document => [] :: doc.addressesBelow
  | .node a =>
    match doc.at? a with
    | some e => e.addressesBelow.map (a ++ ·)
    | none => []

variable {doc : Element}

/-- From a place of a document, an axis leads to what can be reached from there. -/
theorem reach_node {place : Place} (sound : doc.at? place.address = some place.element)
    (axis : Axis) :
    (node place.address).reach doc axis = (place.reach axis).map (·.address) := by
  rw [reach, sound]

theorem reach_node_of_none {a : Address} (unresolved : doc.at? a = none) (axis : Axis) :
    (node a).reach doc axis = [] := by
  rw [reach, unresolved]

/-- **Descending is the recursion.** -/
theorem reach_descendant_eq (doc : Element) (context : Context) :
    context.reach doc .descendant = context.addressesBelow doc := by
  cases context with
  | document =>
      rw [reach, startPlaces, Place.map_address_within, List.flatMap_singleton, addressesBelow]
      exact congrArg _ (List.map_id _)
  | node a =>
      rw [reach, addressesBelow]
      cases doc.at? a with
      | none => rfl
      | some e => exact (Place.map_address_within _).trans (Place.mk a e).flatMap_children_addresses

/-- The places whose addresses a child step leads to. -/
theorem exists_children (doc : Element) (context : Context) :
    ∃ places : List Place, context.reach doc .child = places.map (·.address) ∧
      context.reach doc .descendant = (Place.within places).map (·.address) ∧
      ∀ p ∈ places, doc.at? p.address = some p.element := by
  cases context with
  | document =>
      refine ⟨[Place.root doc], rfl, rfl, fun p mem => ?_⟩
      obtain rfl := List.mem_singleton.mp mem
      rfl
  | node a =>
      cases found : doc.at? a with
      | none =>
          refine ⟨[], reach_node_of_none found _, ?_, nofun⟩
          rw [reach_node_of_none found, Place.within]
          rfl
      | some e =>
          have sound : doc.at? (Place.mk a e).address = some (Place.mk a e).element := found
          exact ⟨(Place.mk a e).children, reach_node sound .child, reach_node sound .descendant,
            Place.sound_children sound⟩

/-- The addresses of places that are told by their addresses alone. -/
theorem mem_map_address_iff {places : List Place} {allowed : Address → Prop}
    (listed : ∀ p, p ∈ places ↔ allowed p.address ∧ doc.at? p.address = some p.element)
    {a : Address} : a ∈ places.map (·.address) ↔ allowed a ∧ ∃ e, doc.at? a = some e := by
  rw [List.mem_map]
  constructor
  · rintro ⟨p, mem, rfl⟩
    obtain ⟨allows, found⟩ := (listed p).mp mem
    exact ⟨allows, p.element, found⟩
  · rintro ⟨allows, e, found⟩
    exact ⟨⟨a, e⟩, (listed ⟨a, e⟩).mpr ⟨allows, found⟩, rfl⟩

/-- **Descending reaches** what leads to an element below the context. -/
theorem mem_reach_descendant_iff {context : Context} {a : Address} :
    a ∈ context.reach doc .descendant ↔ context.Contains a ∧ ∃ e, doc.at? a = some e := by
  cases context with
  | document => exact mem_map_address_iff (startPlaces_listed doc .anywhere).2
  | node b =>
      cases found : doc.at? b with
      | none =>
          rw [reach_node_of_none found]
          refine iff_of_false List.not_mem_nil ?_
          rintro ⟨⟨way, -, rfl⟩, e, there⟩
          rw [doc.at?_append, found] at there
          cases there
      | some f =>
          have sound : doc.at? (Place.mk b f).address = some (Place.mk b f).element := found
          rw [reach_node sound]
          exact mem_map_address_iff fun p => Place.mem_reach_iff sound .descendant

/-- What descending reaches is in document order. -/
theorem pairwise_reach_descendant (doc : Element) (context : Context) :
    (context.reach doc .descendant).Pairwise Address.Before := by
  cases context with
  | document => exact List.pairwise_map.mpr (startPlaces_listed doc .anywhere).1.ordered
  | node a =>
      rw [reach]
      cases doc.at? a with
      | none => exact .nil
      | some e => exact List.pairwise_map.mpr ((Place.mk a e).pairwise_reach .descendant)

/-- **Descending goes from child to child**, and down from each of them before the next. -/
theorem reach_descendant_eq_flatMap (doc : Element) (context : Context) :
    context.reach doc .descendant =
      (context.reach doc .child).flatMap fun a => a :: (node a).reach doc .descendant := by
  obtain ⟨places, children, descendants, sound⟩ := context.exists_children doc
  rw [descendants, children, Place.map_address_within, List.flatMap_map]
  refine List.flatMap_congr fun place mem => ?_
  rw [reach_descendant_eq, addressesBelow, sound place mem]

end Context

end NodePath

/-! ### The loop -/

/-- The state of a loop that goes down a document: the addresses listed so far, and a stack of
pending ones with its top at the end. -/
structure Descent where
  found : List Address
  pending : List Address

namespace Descent

open NodePath

/-- One round: the address on top of the stack is listed, and the addresses of its children take its
place, the last one first. -/
def round? (doc : Element) (state : Descent) : Option Descent :=
  state.pending.getLast?.map fun a =>
    { found := state.found ++ [a]
      pending := state.pending.dropLast ++ ((Context.node a).reach doc .child).reverse }

/-- The loop goes through a number of rounds, and then there is nothing pending. -/
inductive EndsAfter (doc : Element) : Nat → Descent → List Address → Prop
  | done {found : List Address} : EndsAfter doc 0 ⟨found, []⟩ found
  | round {state next : Descent} {rounds : Nat} {found : List Address} :
      state.round? doc = some next → EndsAfter doc rounds next found →
      EndsAfter doc (rounds + 1) state found

/-- The loop as it starts: nothing is listed, and what is one step down is pending. -/
def start (doc : Element) (context : Context) : Descent :=
  ⟨[], (context.reach doc .child).reverse⟩

variable {doc : Element}

/-- The loop can end in one way only. -/
theorem EndsAfter.unique {state : Descent} {rounds others : Nat} {found other : List Address}
    (first : EndsAfter doc rounds state found) (second : EndsAfter doc others state other) :
    rounds = others ∧ found = other := by
  induction first generalizing others with
  | done =>
      cases second with
      | done => exact ⟨rfl, rfl⟩
      | round goesOn _ => cases goesOn
  | round goesOn _ ih =>
      cases second with
      | done => cases goesOn
      | round goesOnToo rest =>
          rw [goesOn] at goesOnToo
          obtain rfl := Option.some.inj goesOnToo
          obtain ⟨rfl, rfl⟩ := ih rest
          exact ⟨rfl, rfl⟩

/-- **What the loop lists** is what is within the places on its stack, one element each round. -/
theorem endsAfter_within {pending : List Place}
    (sound : ∀ p ∈ pending, doc.at? p.address = some p.element) (found : List Address) :
    EndsAfter doc (Place.within pending).length ⟨found, (pending.map (·.address)).reverse⟩
      (found ++ (Place.within pending).map (·.address)) := by
  induction pending using Place.within.induct generalizing found with
  | case1 =>
      rw [Place.within, List.map_nil, List.append_nil]
      exact .done
  | case2 place pending ih =>
      -- the stack, read from its top, holds the addresses of the pending places: after a round it
      -- holds those of the children and then of the others, and these are what is within the place
      have here := sound place List.mem_cons_self
      have rest : ∀ p ∈ place.children ++ pending, doc.at? p.address = some p.element := by
        intro p mem
        rcases List.mem_append.mp mem with mem | mem
        · exact Place.sound_children here p mem
        · exact sound p (List.mem_cons_of_mem _ mem)
      have goesOn := ih rest (found ++ [place.address])
      rw [List.append_assoc, List.singleton_append, ← List.map_cons] at goesOn
      rw [Place.within]
      refine .round ?_ goesOn
      rw [round?, List.map_cons, List.reverse_cons, List.getLast?_concat, Option.map_some,
        List.dropLast_concat, Context.reach_node here, ← List.reverse_append, ← List.map_append]
      rfl

/-- The loop, from its start to its end. -/
theorem endsAfter_start (doc : Element) (context : Context) :
    EndsAfter doc (context.reach doc .descendant).length (start doc context)
      (context.reach doc .descendant) := by
  obtain ⟨places, children, descendants, sound⟩ := context.exists_children doc
  rw [start, children, descendants, List.length_map]
  exact endsAfter_within sound []

end Descent

namespace NodePath.Context

/-- **What is reached by descending.** The loop ends, after one round for each address that it
lists. It lists what descending reaches: the addresses that lead to an element below the context, and
no others, each once and in document order; from an address that leads to no element, none. The
recursion on elements lists the same, and so does one that goes from child to child and lists behind
each child what is reached from there. -/
theorem descent_lists_subtree (doc : Element) (context : Context) :
    (∀ rounds found, Descent.EndsAfter doc rounds (Descent.start doc context) found ↔
        rounds = (context.reach doc .descendant).length ∧
          found = context.reach doc .descendant) ∧
      (∀ a, a ∈ context.reach doc .descendant ↔
        context.Contains a ∧ ∃ e, doc.at? a = some e) ∧
      (context.reach doc .descendant).Nodup ∧
      (context.reach doc .descendant).Pairwise Address.Before ∧
      (∀ a, context = .node a → doc.at? a = none → context.reach doc .descendant = []) ∧
      context.reach doc .descendant = context.addressesBelow doc ∧
      context.reach doc .descendant =
        (context.reach doc .child).flatMap fun a => a :: (node a).reach doc .descendant := by
  have ends := Descent.endsAfter_start doc context
  have ordered := context.pairwise_reach_descendant doc
  refine ⟨fun rounds found => ⟨fun ended => ended.unique ends, ?_⟩,
    fun a => mem_reach_descendant_iff, ordered.imp Address.Before.ne, ordered, ?_,
    context.reach_descendant_eq doc, context.reach_descendant_eq_flatMap doc⟩
  · rintro ⟨rfl, rfl⟩
    exact ends
  · rintro a rfl unresolved
    exact reach_node_of_none unresolved .descendant

/-- Text between the children takes up positions, and leads nowhere. -/
example :
    let doc : Element := ⟨"a", [], [.text "x", .element ⟨"b", [], [.element ⟨"c", [], []⟩]⟩]⟩
    document.reach doc .descendant = [[], [1], [1, 0]] ∧ (node [0]).reach doc .descendant = [] := by
  cbv

end NodePath.Context

end DocPipeline
