import DocPipeline.Document.Selection
import DocPipeline.Proofs.Document.Address

/-!
# What paths select

A path selects an element if the elements that lead down to it can be matched by the steps of the
path: some of them, one below the other, each accepted by its step and led to from the one before.
All elements that can be reached so are selected, once each and in document order.

## Main definitions

* `Axis.Leads`, `Origin.Allows`, `NameTest.AcceptsAt`: the parts of a path, by addresses.
* `NodePath.Matches`: elements, one below the other, that match a path step by step.
* `Place.Listed`: places of a document, in document order and once each.

## Main results

* `Place.mem_within_iff`, `Place.pairwise_within`: the elements within some places.
* `NodePath.advance_listed`: one step from all places reached so far.
* `NodePath.select_lists_matches`: what a path selects.
-/

namespace DocPipeline

/-! ### What the parts of a path mean -/

/-- An axis leads from an element to its children, or to whatever is properly within it. -/
def Axis.Leads : Axis → Address → Address → Prop
  | .child, a, b => ∃ i, b = a ++ [i]
  | .descendant, a, b => Address.Contains a b

/-- Where a path may begin: at the root, anywhere, or at a child of the root. -/
def Origin.Allows : Origin → Address → Prop
  | .root, a => a = []
  | .anywhere, _ => True
  | .belowRoot, a => ∃ i, a = [i]

/-- An address leads to an element that a test accepts. -/
def NameTest.AcceptsAt (test : NameTest) (doc : Element) (a : Address) : Prop :=
  ∃ e, doc.at? a = some e ∧ test.accepts e = true

namespace NodePath

/-- Elements that match steps one by one, each led to from the one before it. -/
def Follows (doc : Element) : (start : Address) → List PathStep → List Address → Prop
  | _, [], nodes => nodes = []
  | start, step :: steps, nodes => ∃ node rest, nodes = node :: rest ∧
      step.axis.Leads start node ∧ step.test.AcceptsAt doc node ∧ Follows doc node steps rest

/-- Elements that match a path: the first where the path may begin, the others step by step. -/
def Matches (path : NodePath) (doc : Element) (nodes : List Address) : Prop :=
  ∃ first rest, nodes = first :: rest ∧ path.origin.Allows first ∧
    path.first.AcceptsAt doc first ∧ Follows doc first path.rest rest

end NodePath

/-! ### Places -/

namespace Place

/-- The children of a place are one position further down. -/
theorem mem_children_iff {place p : Place} :
    p ∈ place.children ↔
      ∃ i, p.address = place.address ++ [i] ∧ place.element.at? [i] = some p.element := by
  rw [children, List.mem_map]
  constructor
  · rintro ⟨⟨i, child⟩, mem, rfl⟩
    exact ⟨i, rfl, Element.mem_childElements_iff.mp mem⟩
  · obtain ⟨address, element⟩ := p
    rintro ⟨i, same, found⟩
    obtain rfl : address = place.address ++ [i] := same
    exact ⟨(i, element), Element.mem_childElements_iff.mpr found, rfl⟩

/-- The children of a place are apart from each other. -/
theorem pairwise_children (place : Place) :
    place.children.Pairwise fun p q => Address.Apart p.address q.address := by
  rw [children, List.pairwise_map]
  exact (Element.pairwise_childElementsFrom 0 _).imp fun before =>
    Address.apart_of_lt place.address before

/-- **The elements within some places** are those that their addresses lead to from there. -/
theorem mem_within_iff {pending : List Place} {p : Place} :
    p ∈ within pending ↔ ∃ q ∈ pending, ∃ way, p.address = q.address ++ way ∧
      q.element.at? way = some p.element := by
  induction pending using within.induct with
  | case1 => simp [within]
  | case2 place pending ih =>
      -- a way from the first place is empty, or goes on from one of its children
      rw [within, List.mem_cons, ih]
      constructor
      · rintro (rfl | ⟨q, mem, way, same, found⟩)
        · exact ⟨p, List.mem_cons_self, [], (List.append_nil _).symm, rfl⟩
        · rcases List.mem_append.mp mem with mem | mem
          · obtain ⟨i, down, child⟩ := mem_children_iff.mp mem
            have onward := place.element.at?_append [i] way
            rw [child] at onward
            refine ⟨place, List.mem_cons_self, i :: way, ?_, onward.trans found⟩
            rw [same, down, List.append_assoc, List.singleton_append]
          · exact ⟨q, List.mem_cons_of_mem _ mem, way, same, found⟩
      · rintro ⟨q, mem, way, same, found⟩
        rcases List.mem_cons.mp mem with rfl | mem
        · cases way with
          | nil =>
              obtain ⟨address, element⟩ := p
              obtain rfl : address = q.address := same.trans (List.append_nil _)
              obtain rfl : q.element = element := Option.some.inj found
              exact .inl rfl
          | cons i way =>
              have onward := (q.element.at?_append [i] way).symm.trans found
              obtain ⟨child, down, found⟩ := Option.bind_eq_some_iff.mp onward
              refine .inr ⟨⟨q.address ++ [i], child⟩, ?_, way, ?_, found⟩
              · exact List.mem_append_left _ (mem_children_iff.mpr ⟨i, rfl, down⟩)
              · rw [same, List.append_assoc, List.singleton_append]
        · exact .inr ⟨q, List.mem_append_right _ mem, way, same, found⟩

/-- What is within places that are apart is listed in document order. -/
theorem pairwise_within {pending : List Place}
    (apart : pending.Pairwise fun p q => Address.Apart p.address q.address) :
    (within pending).Pairwise fun p q => Address.Before p.address q.address := by
  induction pending using within.induct with
  | case1 => simp [within]
  | case2 place pending ih =>
      -- the first place contains its children and is apart from the others; so the children, put in
      -- its place, are apart from the others as well
      obtain ⟨others, rest⟩ := List.pairwise_cons.mp apart
      rw [within]
      refine .cons (fun p mem => ?_) (ih ?_)
      · rw [mem_within_iff] at mem
        obtain ⟨q, mem, way, same, -⟩ := mem
        rw [same]
        rcases List.mem_append.mp mem with mem | mem
        · obtain ⟨i, down, -⟩ := mem_children_iff.mp mem
          rw [down]
          exact .inl ⟨i :: way, nofun, by simp⟩
        · have := (others q mem).append [] way
          rw [List.append_nil] at this
          exact .inr this
      · refine List.pairwise_append.mpr ⟨place.pairwise_children, rest, fun p below q mem => ?_⟩
        obtain ⟨i, down, -⟩ := mem_children_iff.mp below
        have := (others q mem).append [i] []
        rw [List.append_nil] at this
        rw [down]
        exact this

/-- From a place of a document, an address leads where it leads in the document from there on. -/
theorem at?_address_append {doc : Element} {place : Place}
    (sound : doc.at? place.address = some place.element) (way : Address) :
    doc.at? (place.address ++ way) = place.element.at? way := by
  rw [doc.at?_append, sound, Option.bind_some]

/-- An axis reaches all elements that it leads to. -/
theorem mem_reach_iff {doc : Element} {place p : Place}
    (sound : doc.at? place.address = some place.element) (axis : Axis) :
    p ∈ place.reach axis ↔
      axis.Leads place.address p.address ∧ doc.at? p.address = some p.element := by
  cases axis with
  | child =>
      rw [reach, mem_children_iff]
      constructor
      · rintro ⟨i, same, found⟩
        refine ⟨⟨i, same⟩, ?_⟩
        rw [same, at?_address_append sound, found]
      · rintro ⟨⟨i, same⟩, found⟩
        rw [same, at?_address_append sound] at found
        exact ⟨i, same, found⟩
  | descendant =>
      rw [reach, mem_within_iff]
      constructor
      · rintro ⟨q, below, way, same, found⟩
        obtain ⟨i, down, child⟩ := mem_children_iff.mp below
        rw [down, List.append_assoc, List.singleton_append] at same
        refine ⟨⟨i :: way, nofun, same⟩, ?_⟩
        have onward := place.element.at?_append [i] way
        rw [child] at onward
        rw [same, at?_address_append sound]
        exact onward.trans found
      · rintro ⟨⟨way, proper, same⟩, found⟩
        obtain ⟨i, way, rfl⟩ := List.exists_cons_of_ne_nil proper
        rw [same, at?_address_append sound] at found
        have onward := (place.element.at?_append [i] way).symm.trans found
        obtain ⟨child, down, found⟩ := Option.bind_eq_some_iff.mp onward
        refine ⟨⟨place.address ++ [i], child⟩, mem_children_iff.mpr ⟨i, rfl, down⟩, way, ?_, found⟩
        rw [same, List.append_assoc, List.singleton_append]

/-- What an axis reaches is listed in document order. -/
theorem pairwise_reach (place : Place) (axis : Axis) :
    (place.reach axis).Pairwise fun p q => Address.Before p.address q.address := by
  cases axis with
  | child => exact place.pairwise_children.imp .inr
  | descendant => exact pairwise_within place.pairwise_children

/-! ### Gathering places -/

/-- Places of a document, in document order and once each. -/
structure Listed (doc : Element) (places : List Place) : Prop where
  sound : ∀ p ∈ places, doc.at? p.address = some p.element
  ordered : places.Pairwise fun p q => Address.Before p.address q.address

theorem Listed.nil (doc : Element) : Listed doc [] := ⟨nofun, .nil⟩

/-- A selection of listed places is listed. -/
theorem Listed.filter {doc : Element} {places : List Place} (listed : Listed doc places)
    (keeps : Place → Bool) : Listed doc (places.filter keeps) :=
  ⟨fun p mem => listed.sound p (List.mem_filter.mp mem).1, listed.ordered.filter _⟩

/-- What stands behind the first of listed places. -/
theorem Listed.tail {doc : Element} {place : Place} {places : List Place}
    (listed : Listed doc (place :: places)) : Listed doc places :=
  ⟨fun p mem => listed.sound p (List.mem_cons_of_mem _ mem),
    (List.pairwise_cons.mp listed.ordered).2⟩

/-- What comes before the first of listed places comes before all of them. -/
theorem Listed.before_of_before_head {doc : Element} {place : Place} {places : List Place}
    (listed : Listed doc (place :: places)) {a : Address}
    (before : Address.Before a place.address) :
    ∀ p ∈ place :: places, Address.Before a p.address := by
  intro p mem
  rcases List.mem_cons.mp mem with rfl | mem
  · exact before
  · exact before.trans ((List.pairwise_cons.mp listed.ordered).1 p mem)

/-- Gathering neither adds nor loses a place: two places with one address are the same. -/
theorem Listed.mem_union_iff {doc : Element} {xs ys : List Place} (left : Listed doc xs)
    (right : Listed doc ys) {p : Place} : p ∈ union xs ys ↔ p ∈ xs ∨ p ∈ ys := by
  induction xs, ys using union.induct with
  | case1 ys => simp [union]
  | case2 xs nonempty => simp [union]
  | case3 x xs y ys before ih =>
      rw [union, if_pos before, List.mem_cons, ih left.tail right, List.mem_cons (l := xs),
        or_assoc]
  | case4 x xs y ys notBefore before ih =>
      rw [union, if_neg notBefore, if_pos before, List.mem_cons, ih left right.tail,
        List.mem_cons (l := ys)]
      exact or_left_comm
  | case5 x xs y ys notBefore notAfter ih =>
      have sameAddress := Address.eq_of_not_lt notBefore notAfter
      have same : x = y := by
        have found := left.sound x List.mem_cons_self
        rw [sameAddress, right.sound y List.mem_cons_self] at found
        obtain ⟨address, element⟩ := x
        obtain rfl : address = y.address := sameAddress
        obtain rfl := Option.some.inj found
        rfl
      rw [union, if_neg notBefore, if_neg notAfter, List.mem_cons, ih left.tail right.tail, same]
      simp only [List.mem_cons]
      exact or_or_distrib_left

/-- **Gathering** keeps document order, and each place once. -/
theorem Listed.union {doc : Element} {xs ys : List Place} (left : Listed doc xs)
    (right : Listed doc ys) : Listed doc (union xs ys) := by
  refine ⟨fun p mem => ?_, ?_⟩
  · rcases (left.mem_union_iff right).mp mem with mem | mem
    · exact left.sound p mem
    · exact right.sound p mem
  · induction xs, ys using union.induct with
    | case1 ys => simpa [Place.union] using right.ordered
    | case2 xs nonempty => simpa [Place.union] using left.ordered
    | case3 x xs y ys before ih =>
        rw [Place.union, if_pos before]
        refine .cons (fun p mem => ?_) (ih left.tail right)
        rcases (left.tail.mem_union_iff right).mp mem with mem | mem
        · exact (List.pairwise_cons.mp left.ordered).1 p mem
        · exact right.before_of_before_head (Address.before_iff_lt.mpr before) p mem
    | case4 x xs y ys notBefore before ih =>
        rw [Place.union, if_neg notBefore, if_pos before]
        refine .cons (fun p mem => ?_) (ih left right.tail)
        rcases (left.mem_union_iff right.tail).mp mem with mem | mem
        · exact left.before_of_before_head (Address.before_iff_lt.mpr before) p mem
        · exact (List.pairwise_cons.mp right.ordered).1 p mem
    | case5 x xs y ys notBefore notAfter ih =>
        rw [Place.union, if_neg notBefore, if_neg notAfter]
        refine .cons (fun p mem => ?_) (ih left.tail right.tail)
        rcases (left.tail.mem_union_iff right.tail).mp mem with mem | mem
        · exact (List.pairwise_cons.mp left.ordered).1 p mem
        · rw [Address.eq_of_not_lt notBefore notAfter]
          exact (List.pairwise_cons.mp right.ordered).1 p mem

end Place

namespace NodePath

open Place

/-! ### Steps -/

/-- **One step** leads to all elements that its axis leads to from the places reached so far and
that its test accepts, listed anew. -/
theorem advance_listed {doc : Element} {places : List Place}
    (sound : ∀ p ∈ places, doc.at? p.address = some p.element) (step : PathStep) :
    Listed doc (advance places step) ∧
      ∀ p, p ∈ advance places step ↔ ∃ q ∈ places, step.axis.Leads q.address p.address ∧
        doc.at? p.address = some p.element ∧ step.test.accepts p.element = true := by
  induction places with
  | nil => exact ⟨.nil doc, fun p => by simp [advance]⟩
  | cons place places ih =>
      have here := sound place List.mem_cons_self
      obtain ⟨listed, reached⟩ := ih fun p mem => sound p (List.mem_cons_of_mem _ mem)
      have fromHere : Listed doc
          ((place.reach step.axis).filter fun p => step.test.accepts p.element) :=
        Listed.filter
          ⟨fun p mem => ((mem_reach_iff here step.axis).mp mem).2, place.pairwise_reach step.axis⟩ _
      refine ⟨fromHere.union listed, fun p => ?_⟩
      refine (fromHere.mem_union_iff listed).trans ?_
      rw [List.mem_filter, mem_reach_iff here, and_assoc]
      simp only [List.mem_cons, exists_eq_or_imp]
      exact or_congr_right (reached p)

/-- Steps, one after the other, lead to all elements that match them from a place reached before. -/
theorem foldl_advance_listed {doc : Element} {places : List Place} (listed : Listed doc places)
    (steps : List PathStep) :
    Listed doc (steps.foldl advance places) ∧
      ∀ a, a ∈ (steps.foldl advance places).map (·.address) ↔
        ∃ p ∈ places, ∃ nodes, Follows doc p.address steps nodes ∧
          (p.address :: nodes).getLast? = some a := by
  induction steps generalizing places with
  | nil => exact ⟨listed, fun a => by simp [Follows]⟩
  | cons step steps ih =>
      obtain ⟨advanced, reached⟩ := advance_listed listed.sound step
      obtain ⟨listed, selected⟩ := ih advanced
      refine ⟨listed, fun a => (selected a).trans ⟨?_, ?_⟩⟩
      · rintro ⟨q, mem, nodes, follows, last⟩
        obtain ⟨p, mem, leads, found, accepts⟩ := (reached q).mp mem
        refine ⟨p, mem, q.address :: nodes, ?_, ?_⟩
        · exact ⟨q.address, nodes, rfl, leads, ⟨q.element, found, accepts⟩, follows⟩
        · rw [List.getLast?_cons_cons, last]
      · rintro ⟨p, mem, _, ⟨node, nodes, rfl, leads, ⟨e, found, accepts⟩, follows⟩, last⟩
        rw [List.getLast?_cons_cons] at last
        exact ⟨⟨node, e⟩, (reached ⟨node, e⟩).mpr ⟨p, mem, leads, found, accepts⟩, nodes, follows,
          last⟩

/-- A path begins at all elements at which it may. -/
theorem startPlaces_listed (doc : Element) (origin : Origin) :
    Listed doc (startPlaces doc origin) ∧
      ∀ p, p ∈ startPlaces doc origin ↔
        origin.Allows p.address ∧ doc.at? p.address = some p.element := by
  have single : [Place.root doc].Pairwise fun p q => Address.Apart p.address q.address :=
    List.pairwise_singleton _ _
  suffices reached : ∀ p, p ∈ startPlaces doc origin ↔
      origin.Allows p.address ∧ doc.at? p.address = some p.element by
    refine ⟨⟨fun p mem => ((reached p).mp mem).2, ?_⟩, reached⟩
    cases origin with
    | root => exact List.pairwise_singleton _ _
    | anywhere => exact pairwise_within single
    | belowRoot => exact (Place.root doc).pairwise_children.imp .inr
  rintro ⟨address, element⟩
  cases origin with
  | root =>
      rw [startPlaces, List.mem_singleton]
      constructor
      · rintro ⟨⟩
        exact ⟨rfl, rfl⟩
      · rintro ⟨rfl, found⟩
        obtain rfl := Option.some.inj found
        rfl
  | anywhere =>
      rw [startPlaces, mem_within_iff]
      constructor
      · rintro ⟨q, mem, way, rfl, found⟩
        obtain rfl := List.mem_singleton.mp mem
        exact ⟨trivial, found⟩
      · rintro ⟨-, found⟩
        exact ⟨Place.root doc, List.mem_singleton_self _, address, rfl, found⟩
  | belowRoot =>
      rw [startPlaces, mem_children_iff]
      constructor
      · rintro ⟨i, rfl, found⟩
        exact ⟨⟨i, rfl⟩, found⟩
      · rintro ⟨⟨i, rfl⟩, found⟩
        exact ⟨i, rfl, found⟩

/-! ### Selection -/

/-- Elements that match steps lie deeper and deeper. -/
theorem Follows.deepens {doc : Element} {start : Address} {steps : List PathStep}
    {nodes : List Address} (follows : Follows doc start steps nodes) :
    (start :: nodes).Pairwise Address.Contains := by
  induction steps generalizing start nodes with
  | nil =>
      obtain rfl := follows
      exact List.pairwise_singleton _ _
  | cons step steps ih =>
      obtain ⟨node, rest, rfl, leads, -, follows⟩ := follows
      have below : Address.Contains start node := by
        cases axis : step.axis with
        | child =>
            rw [axis] at leads
            obtain ⟨i, rfl⟩ := leads
            exact ⟨[i], nofun, rfl⟩
        | descendant =>
            rw [axis] at leads
            exact leads
      have further := ih follows
      refine .cons (fun other mem => ?_) further
      rcases List.mem_cons.mp mem with rfl | mem
      · exact below
      · exact below.trans ((List.pairwise_cons.mp further).1 other mem)

/-- So do elements that match a path. -/
theorem Matches.deepens {path : NodePath} {doc : Element} {nodes : List Address}
    (matched : path.Matches doc nodes) : nodes.Pairwise Address.Contains := by
  obtain ⟨first, rest, rfl, -, -, follows⟩ := matched
  exact follows.deepens

/-- The places that a path selects are listed, and are the last of elements that match the path. -/
theorem selectPlaces_listed (path : NodePath) (doc : Element) :
    Listed doc (path.selectPlaces doc) ∧
      ∀ a, a ∈ path.select doc ↔ ∃ nodes, path.Matches doc nodes ∧ nodes.getLast? = some a := by
  obtain ⟨begun, allowed⟩ := startPlaces_listed doc path.origin
  obtain ⟨listed, selected⟩ :=
    foldl_advance_listed (begun.filter fun place => path.first.accepts place.element) path.rest
  refine ⟨listed, fun a => (selected a).trans ⟨?_, ?_⟩⟩
  · rintro ⟨p, mem, nodes, follows, last⟩
    obtain ⟨mem, accepts⟩ := List.mem_filter.mp mem
    obtain ⟨allows, found⟩ := (allowed p).mp mem
    have begins : path.first.AcceptsAt doc p.address := ⟨p.element, found, accepts⟩
    exact ⟨p.address :: nodes, ⟨p.address, nodes, rfl, allows, begins, follows⟩, last⟩
  · rintro ⟨_, ⟨first, rest, rfl, allows, ⟨e, found, accepts⟩, follows⟩, last⟩
    have begins : ⟨first, e⟩ ∈ (startPlaces doc path.origin).filter fun place =>
        path.first.accepts place.element :=
      List.mem_filter.mpr ⟨(allowed ⟨first, e⟩).mpr ⟨allows, found⟩, accepts⟩
    exact ⟨⟨first, e⟩, begins, rest, follows, last⟩

/-- What a path selects is in document order. -/
theorem pairwise_select (path : NodePath) (doc : Element) :
    (path.select doc).Pairwise Address.Before :=
  List.pairwise_map.mpr (path.selectPlaces_listed doc).1.ordered

/-- What a path selects first comes before all else that it selects. -/
theorem selectFirst_eq_some_iff {path : NodePath} {doc : Element} {a : Address} :
    path.selectFirst doc = some a ↔
      a ∈ path.select doc ∧ ∀ b ∈ path.select doc, b = a ∨ Address.Before a b :=
  Address.head?_eq_some_iff (path.pairwise_select doc)

/-- **What a path selects.** An address is selected if it leads to an element and, on the way down
to that element, there are elements, one within the other and the element itself the last of them,
that match the path. The addresses are listed in document order, each once, and the first of them is
selected where only one is asked for. -/
theorem select_lists_matches (path : NodePath) (doc : Element) :
    (∀ a, a ∈ path.select doc ↔ (∃ e, doc.at? a = some e) ∧
      ∃ nodes, path.Matches doc nodes ∧ nodes.Pairwise Address.Contains ∧
        nodes.getLast? = some a) ∧
      (path.select doc).Pairwise Address.Before ∧ (path.select doc).Nodup ∧
      (∀ a, path.selectFirst doc = some a ↔ a ∈ path.select doc ∧
        ∀ b ∈ path.select doc, b = a ∨ Address.Before a b) ∧
      (path.selectFirst doc = none ↔ path.select doc = []) := by
  obtain ⟨listed, selected⟩ := path.selectPlaces_listed doc
  have ordered : (path.select doc).Pairwise Address.Before := List.pairwise_map.mpr listed.ordered
  refine ⟨fun a => ⟨fun mem => ?_, ?_⟩, ordered, ordered.imp Address.Before.ne, fun a => ?_,
    List.head?_eq_none_iff⟩
  · obtain ⟨p, there, rfl⟩ := List.mem_map.mp mem
    obtain ⟨nodes, matched, last⟩ := (selected p.address).mp mem
    exact ⟨⟨p.element, listed.sound p there⟩, nodes, matched, matched.deepens, last⟩
  · rintro ⟨-, nodes, matched, -, last⟩
    exact (selected a).mpr ⟨nodes, matched, last⟩
  · exact Address.head?_eq_some_iff ordered

/-- An element that can be reached in several ways is selected once. -/
example :
    let doc : Element := ⟨"a", [], [.text "x", .element ⟨"a", [], [.element ⟨"b", [], []⟩]⟩]⟩
    select ⟨.anywhere, .named "a", [⟨.descendant, .named "b"⟩]⟩ doc = [[1, 0]] := by
  cbv

end NodePath

end DocPipeline
