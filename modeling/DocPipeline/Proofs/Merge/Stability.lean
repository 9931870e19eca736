import DocPipeline.Proofs.FirstFault
import DocPipeline.Proofs.Merge.Plan
import DocPipeline.Proofs.Merge.Splice

/-!
# What paths select while a document grows

Whether a path selects an element depends on the names of that element and of those around it, and
on nothing else. Elements that are put behind the children of one change no name that was there. So
every path selects of the old elements those that it selected before, and what it selects besides is
within what was put there. A path that selects something goes on doing so; what it selects first
stays the first, or something new that comes before it in document order takes its place.

## Main definitions

* `Element.nameAt?`: the name at an address.
* `NodePath.KeepsFirst`: a path that selects something goes on selecting something.

## Main results

* `NodePath.mem_select_congr`: selection depends on names only.
* `Element.ExtendedAt.mem_select_iff`, `Element.ExtendedAt.beyond_of_selected`: what is selected in
  a document that has been extended.
* `MergePlan.keepsFirst_of_apply`: what a path selects first while a document is merged.
* `Element.appendAt_keeps_selection`: what is selected after one more element has been appended.
-/

namespace DocPipeline

/-- The name of the element at an address, if the address leads to one. -/
def Element.nameAt? (doc : Element) (a : Address) : Option String := (doc.at? a).map (·.name)

/-! ### Selection depends on names -/

/-- A test looks at the name of an element only. -/
theorem NameTest.accepts_congr (test : NameTest) {e f : Element} (same : e.name = f.name) :
    test.accepts e = test.accepts f := by
  cases test with
  | any => rfl
  | named name => rw [accepts, accepts, same]

/-- So it accepts what is at an address wherever the same name is there. -/
theorem NameTest.AcceptsAt.transfer {test : NameTest} {doc other : Element} {a : Address}
    (same : other.nameAt? a = doc.nameAt? a) (accepted : test.AcceptsAt doc a) :
    test.AcceptsAt other a := by
  obtain ⟨e, found, accepts⟩ := accepted
  rw [Element.nameAt?, Element.nameAt?, found, Option.map_some] at same
  obtain ⟨f, there, name⟩ := Option.map_eq_some_iff.mp same
  exact ⟨f, there, (test.accepts_congr name).trans accepts⟩

namespace NodePath

variable {doc other : Element} {path : NodePath}

/-- Elements match steps wherever the same names are at their addresses. -/
theorem Follows.transfer {start : Address} {steps : List PathStep} {nodes : List Address}
    (follows : Follows doc start steps nodes)
    (same : ∀ a ∈ nodes, other.nameAt? a = doc.nameAt? a) : Follows other start steps nodes := by
  induction steps generalizing start nodes with
  | nil => exact follows
  | cons step steps ih =>
      obtain ⟨node, rest, rfl, leads, accepted, follows⟩ := follows
      obtain ⟨here, later⟩ := List.forall_mem_cons.mp same
      exact ⟨node, rest, rfl, leads, accepted.transfer here, ih follows later⟩

/-- Elements match a path wherever the same names are at their addresses. -/
theorem Matches.transfer {nodes : List Address} (matched : path.Matches doc nodes)
    (same : ∀ a ∈ nodes, other.nameAt? a = doc.nameAt? a) : path.Matches other nodes := by
  obtain ⟨first, rest, rfl, allows, accepted, follows⟩ := matched
  obtain ⟨here, later⟩ := List.forall_mem_cons.mp same
  exact ⟨first, rest, rfl, allows, accepted.transfer here, follows.transfer later⟩

/-- Elements that match a path stand on the way down to the last of them. -/
theorem Matches.prefix_of_mem {nodes : List Address} (matched : path.Matches doc nodes)
    {a b : Address} (last : nodes.getLast? = some b) (mem : a ∈ nodes) : a <+: b := by
  obtain ⟨above, rfl⟩ := List.getLast?_eq_some_iff.mp last
  have deepens := (List.pairwise_append.mp matched.deepens).2.2
  rcases List.mem_append.mp mem with mem | mem
  · obtain ⟨way, -, rfl⟩ := deepens a mem b (List.mem_singleton_self b)
    exact List.prefix_append a way
  · rw [List.mem_singleton.mp mem]

/-- **Selection depends on names.** Whether the element at an address is selected depends on its
name and on the names of the elements that it is within. -/
theorem mem_select_congr {b : Address}
    (same : ∀ a, a <+: b → other.nameAt? a = doc.nameAt? a) :
    b ∈ path.select other ↔ b ∈ path.select doc := by
  rw [(path.selectPlaces_listed other).2, (path.selectPlaces_listed doc).2]
  refine exists_congr fun nodes => and_congr_left fun last => ⟨fun matched => ?_, fun matched => ?_⟩
  · exact matched.transfer fun a mem => (same a (matched.prefix_of_mem last mem)).symm
  · exact matched.transfer fun a mem => same a (matched.prefix_of_mem last mem)

/-- What is selected is there. -/
theorem exists_of_mem_select {b : Address} (selected : b ∈ path.select doc) :
    ∃ e, doc.at? b = some e := by
  obtain ⟨place, listed, rfl⟩ := List.mem_map.mp selected
  exact ⟨place.element, (path.selectPlaces_listed doc).1.sound place listed⟩

/-- Where a path selects something, it selects something first. -/
theorem exists_selectFirst {b : Address} (selected : b ∈ path.select doc) :
    ∃ first, path.selectFirst doc = some first ∧ (first = b ∨ Address.Before first b) := by
  obtain ⟨first, later, listed⟩ := List.exists_cons_of_ne_nil (List.ne_nil_of_mem selected)
  have leads : path.selectFirst doc = some first := List.head?_eq_some_iff.mpr ⟨later, listed⟩
  refine ⟨first, leads, ?_⟩
  exact ((selectFirst_eq_some_iff.mp leads).2 b selected).imp_left Eq.symm

end NodePath

/-! ### Extended documents -/

/-- What is within something behind the first children is behind them as well. -/
theorem Address.Beyond.of_prefix {target a b : Address} {n : Nat} (beyond : target.Beyond n a)
    (above : a <+: b) : target.Beyond n b := by
  obtain ⟨i, way, behind, rfl⟩ := beyond
  obtain ⟨further, rfl⟩ := above
  exact ⟨i, way ++ further, behind, by simp⟩

namespace Element.ExtendedAt

variable {doc old merged : Element} {target b : Address} {more : List Element} {path : NodePath}
  (extended : doc.ExtendedAt target old more merged)

include extended

/-- Behind the old children there was nothing. -/
theorem at?_eq_none (beyond : target.Beyond old.children.length b) : doc.at? b = none := by
  obtain ⟨i, way, behind, rfl⟩ := beyond
  rw [at?_append, extended.found, Option.bind_some, at?, List.getElem?_eq_none behind]

/-- Old elements keep their names, and no address gets one but behind the old children. -/
theorem nameAt?_eq (notBeyond : ¬ target.Beyond old.children.length b) :
    merged.nameAt? b = doc.nameAt? b := by
  rw [nameAt?, nameAt?]
  by_cases own : b = target
  · rw [own, extended.extended, extended.found]
    rfl
  · have shown := congrArg (Option.map Prod.fst) (extended.shown b own notBeyond)
    rw [Option.map_map, Option.map_map] at shown
    exact shown

/-- **Of the old elements**, a path selects those that it selected before. -/
theorem mem_select_iff (notBeyond : ¬ target.Beyond old.children.length b) :
    b ∈ path.select merged ↔ b ∈ path.select doc :=
  NodePath.mem_select_congr fun _ above =>
    extended.nameAt?_eq fun beyond => notBeyond (beyond.of_prefix above)

/-- What leads somewhere in the old document is not behind the old children. -/
theorem not_beyond {e : Element} (found : doc.at? b = some e) :
    ¬ target.Beyond old.children.length b := by
  intro beyond
  rw [extended.at?_eq_none beyond] at found
  cases found

/-- **Of the new elements**, a path selects only what is behind the old children. -/
theorem beyond_of_selected (selected : b ∈ path.select merged) (new : doc.at? b = none) :
    target.Beyond old.children.length b := by
  by_contra notBeyond
  obtain ⟨e, found⟩ :=
    NodePath.exists_of_mem_select ((extended.mem_select_iff notBeyond).mp selected)
  rw [new] at found
  cases found

/-- **What a path selects first** stays the first, or gives way to something behind the old children
that comes before it. -/
theorem selectFirst_stays {first : Address} (leads : path.selectFirst doc = some first) :
    ∃ again, path.selectFirst merged = some again ∧
      (again = first ∨ target.Beyond old.children.length again ∧ again.Before first) := by
  obtain ⟨selected, least⟩ := NodePath.selectFirst_eq_some_iff.mp leads
  obtain ⟨e, found⟩ := NodePath.exists_of_mem_select selected
  have stays := (extended.mem_select_iff (extended.not_beyond found)).mpr selected
  obtain ⟨again, leadsAgain, order⟩ := NodePath.exists_selectFirst stays
  refine ⟨again, leadsAgain, order.imp_right fun before => ⟨?_, before⟩⟩
  -- an old element that comes before the first one would have been selected first
  by_contra notBeyond
  have older := (extended.mem_select_iff notBeyond).mp
    (NodePath.selectFirst_eq_some_iff.mp leadsAgain).1
  rcases least again older with rfl | after
  · exact before.irrefl _
  · exact (before.trans after).irrefl _

end Element.ExtendedAt

/-! ### Merging -/

namespace Element

variable {doc old : Element} {target : Address}

/-- One more element is appended behind the children of one. -/
theorem appendAt_extendedAt (found : doc.at? target = some old) (child : Element) :
    doc.ExtendedAt target old [child] (appendAt target child doc) :=
  update?_extendedAt found (update?_eq_foldl_appendAt found [child])

/-- Splicing leaves a document as it is or extends it where the destination path leads first. -/
theorem eq_or_extendedAt_of_splice {dest source merged : Element} {sourcePath destPath : NodePath}
    {count : Nat} (spliced : dest.splice source sourcePath destPath = .ok (merged, count)) :
    merged = dest ∨ ∃ target old more, destPath.selectFirst dest = some target ∧
      dest.ExtendedAt target old more merged := by
  rw [splice] at spliced
  cases selected : source.selected sourcePath with
  | nil =>
      rw [selected] at spliced
      exact .inl (Prod.mk.inj (Except.ok.inj spliced)).1.symm
  | cons first rest =>
      rw [selected] at spliced
      cases leads : destPath.selectFirst dest with
      | none =>
          rw [leads] at spliced
          cases spliced
      | some target =>
          obtain ⟨old, found⟩ := NodePath.exists_of_selectFirst leads
          obtain ⟨changed, updated⟩ := exists_update? (·.withChildren (first :: rest)) found
          simp only [leads, Option.bind_some, updated] at spliced
          obtain ⟨rfl, -⟩ := Prod.mk.inj (Except.ok.inj spliced)
          exact .inr ⟨target, old, first :: rest, rfl, update?_extendedAt found updated⟩

end Element

/-- Where a path selects something in a document, it selects something in what the document has
grown into: the same first, or something new that comes before it. -/
def NodePath.KeepsFirst (path : NodePath) (doc grown : Element) : Prop :=
  ∀ first, path.selectFirst doc = some first →
    ∃ again, path.selectFirst grown = some again ∧
      (again = first ∨ doc.at? again = none ∧ again.Before first)

namespace NodePath.KeepsFirst

variable {path : NodePath} {doc grown result : Element}

theorem refl (path : NodePath) (doc : Element) : path.KeepsFirst doc doc :=
  fun first leads => ⟨first, leads, .inl rfl⟩

/-- What is new in a document that has grown was not there before. -/
theorem trans (embeds : doc.Embeds grown) (keeps : path.KeepsFirst doc grown)
    (later : path.KeepsFirst grown result) : path.KeepsFirst doc result := by
  intro first leads
  obtain ⟨between, leadsBetween, order⟩ := keeps first leads
  obtain ⟨again, leadsAgain, orderAgain⟩ := later between leadsBetween
  refine ⟨again, leadsAgain, ?_⟩
  rcases orderAgain with rfl | ⟨new, before⟩
  · exact order
  · have newBefore : doc.at? again = none := by
      by_contra there
      obtain ⟨e, found⟩ := Option.ne_none_iff_exists'.mp there
      obtain ⟨f, leads, -⟩ := embeds.at? found
      rw [new] at leads
      cases leads
    rcases order with rfl | ⟨-, earlier⟩
    · exact .inr ⟨newBefore, before⟩
    · exact .inr ⟨newBefore, before.trans earlier⟩

end NodePath.KeepsFirst

namespace MergePlan

variable {store : SlotStore} {dest merged : Element}

/-- A rule does not lose what a path selects. -/
theorem keepsFirst_of_applyRule (path : NodePath) {rule : MergeRule}
    (applied : applyRule store dest rule = .ok merged) : path.KeepsFirst dest merged := by
  rw [applyRule] at applied
  obtain ⟨source, -, applied⟩ := bind_eq_ok_iff.mp applied
  obtain ⟨⟨made, count⟩, spliced, applied⟩ := bind_eq_ok_iff.mp applied
  obtain rfl := Except.ok.inj applied
  rcases Element.eq_or_extendedAt_of_splice spliced with rfl | ⟨target, old, more, -, extended⟩
  · exact .refl path made
  · intro first leads
    obtain ⟨again, leadsAgain, order⟩ := extended.selectFirst_stays leads
    exact ⟨again, leadsAgain, order.imp_right fun new => ⟨extended.at?_eq_none new.1, new.2⟩⟩

/-- A rule lets the document grow. -/
theorem embeds_of_applyRule {rule : MergeRule}
    (applied : applyRule store dest rule = .ok merged) : dest.Embeds merged := by
  rw [applyRule_eq] at applied
  cases wrong : (store.fault? rule.slot).or (rule.unmatched? store dest) with
  | some error =>
      rw [wrong] at applied
      cases applied
  | none =>
      rw [wrong] at applied
      obtain rfl := Except.ok.inj applied
      exact graft_embeds store dest rule

/-- Rules, one after the other, do not lose what a path selects. -/
theorem keepsFirst_of_foldlM (path : NodePath) {rules : List MergeRule}
    (applied : rules.foldlM (applyRule store) dest = .ok merged) : path.KeepsFirst dest merged := by
  induction rules generalizing dest with
  | nil =>
      obtain rfl := Except.ok.inj applied
      exact .refl path dest
  | cons rule rules ih =>
      rw [List.foldlM_cons] at applied
      obtain ⟨next, one, applied⟩ := bind_eq_ok_iff.mp applied
      exact (keepsFirst_of_applyRule path one).trans (embeds_of_applyRule one) (ih applied)

/-- **Nor does a whole merge**: a path that selects something in the document of the first slot
selects something in the merged document. -/
theorem keepsFirst_of_apply (path : NodePath) {plan : MergePlan}
    (holds : store.Holds plan.destination dest) (applied : plan.apply store = .ok merged) :
    path.KeepsFirst dest merged := by
  rw [apply, slotDocument_of_holds holds] at applied
  exact keepsFirst_of_foldlM path applied

/-- **A merge whose destinations are there from the start** does not fail for lack of one: if every
slot holds a document, and every destination path selects something in the document of the first
slot, all rules can be applied. -/
theorem exists_apply_of_matched {plan : MergePlan} (holds : store.Holds plan.destination dest)
    (sources : ∀ rule ∈ plan.rules, ∃ source, store.Holds rule.slot source)
    (matched : ∀ rule ∈ plan.rules, ∃ a, rule.destPath.selectFirst dest = some a) :
    ∃ merged, plan.apply store = .ok merged := by
  rw [apply, slotDocument_of_holds holds]
  change ∃ merged, plan.rules.foldlM (applyRule store) dest = .ok merged
  clear holds
  generalize plan.rules = rules at sources matched
  -- in what the rules have made so far there is still a place for each of those to come
  induction rules generalizing dest with
  | nil => exact ⟨dest, rfl⟩
  | cons rule rules ih =>
      obtain ⟨source, sources⟩ := List.forall_mem_cons.mp sources
      obtain ⟨place, places⟩ := List.forall_mem_cons.mp matched
      have applied : applyRule store dest rule = .ok (graft store dest rule) := by
        rw [applyRule_eq, SlotStore.fault?_eq_none_iff.mpr source,
          (rule.unmatched?_eq_none_iff store).mpr fun _ => place]
        rfl
      rw [List.foldlM_cons, applied]
      refine ih sources fun later mem => ?_
      obtain ⟨first, leads⟩ := places later mem
      obtain ⟨again, leadsAgain, -⟩ := keepsFirst_of_applyRule later.destPath applied first leads
      exact ⟨again, leadsAgain⟩

end MergePlan

/-! ### One more element -/

namespace Element

/-- What is new in a document with one more element is that element or within it. -/
theorem within_of_appendAt {child e : Element} {b : Address} (found : doc.at? target = some old)
    (there : (appendAt target child doc).at? b = some e)
    (beyond : target.Beyond old.children.length b) :
    ∃ way, b = target ++ old.children.length :: way := by
  obtain ⟨i, way, behind, rfl⟩ := beyond
  obtain ⟨j, rfl⟩ := Nat.exists_eq_add_of_le behind
  rw [(appendAt_extendedAt found child).added] at there
  cases j with
  | zero => exact ⟨way, rfl⟩
  | succ j => cases there

/-- **Adding elements does not disturb what paths select.** When one more element is appended behind
the children of an element, every path selects of the old elements those that it selected before,
and besides only elements within the new one. So what it selects first stays the first, or gives way
to something within the new one that comes before it. The same holds when splicing appends elements
behind the children of the first element that its destination path selects. -/
theorem appendAt_keeps_selection (doc child : Element) (target : Address) (path : NodePath)
    {old : Element} (found : doc.at? target = some old) :
    let grown := appendAt target child doc
    (∀ b e, doc.at? b = some e → (b ∈ path.select grown ↔ b ∈ path.select doc)) ∧
      (∀ b, b ∈ path.select grown → doc.at? b = none →
        ∃ way, b = target ++ old.children.length :: way) ∧
      (∀ first, path.selectFirst doc = some first →
        ∃ again, path.selectFirst grown = some again ∧
          (again = first ∨
            again.Before first ∧ ∃ way, again = target ++ old.children.length :: way)) ∧
      ∀ source sourcePath destPath merged count,
        doc.splice source sourcePath destPath = .ok (merged, count) →
        ∀ first, path.selectFirst doc = some first →
          ∃ again, path.selectFirst merged = some again ∧
            (again = first ∨ again.Before first ∧
              ∃ dest into, destPath.selectFirst doc = some dest ∧ doc.at? dest = some into ∧
                dest.Beyond into.children.length again) := by
  intro grown
  have extended := appendAt_extendedAt found child
  have own {b : Address} (selected : b ∈ path.select grown) (new : doc.at? b = none) :
      ∃ way, b = target ++ old.children.length :: way := by
    obtain ⟨e, there⟩ := NodePath.exists_of_mem_select selected
    exact within_of_appendAt found there (extended.beyond_of_selected selected new)
  refine ⟨fun b e there => extended.mem_select_iff (extended.not_beyond there),
    fun b selected new => own selected new, fun first leads => ?_, ?_⟩
  · obtain ⟨again, leadsAgain, order⟩ := extended.selectFirst_stays leads
    refine ⟨again, leadsAgain, order.imp_right fun ⟨beyond, before⟩ => ⟨before, ?_⟩⟩
    exact own (NodePath.selectFirst_eq_some_iff.mp leadsAgain).1 (extended.at?_eq_none beyond)
  · intro source sourcePath destPath merged count spliced first leads
    rcases eq_or_extendedAt_of_splice spliced with rfl | ⟨dest, into, more, place, extended⟩
    · exact ⟨first, leads, .inl rfl⟩
    · obtain ⟨again, leadsAgain, order⟩ := extended.selectFirst_stays leads
      exact ⟨again, leadsAgain, order.imp_right fun ⟨beyond, before⟩ =>
        ⟨before, dest, into, place, extended.found, beyond⟩⟩

/-- A new element comes before the one that was selected first, which is still selected. -/
theorem appendAt_keeps_selection_nested :
    let doc : Element :=
      ⟨"r", [], [.element ⟨"x", [], [.text "1"]⟩, .text "2", .element ⟨"b", [], []⟩]⟩
    let child : Element := ⟨"c", [], [.element ⟨"b", [], []⟩]⟩
    let path : NodePath := ⟨.anywhere, .named "b", []⟩
    let grown := appendAt [0] child doc
    path.selectFirst doc = some [2] ∧ path.selectFirst grown = some [0, 1, 0] ∧
      [2] ∈ path.select grown ∧
      ∃ again, path.selectFirst grown = some again ∧
        (again = [2] ∨ again.Before [2] ∧ ∃ way, again = [0] ++ 1 :: way) := by
  intro doc child path grown
  have found : doc.at? [0] = some ⟨"x", [], [.text "1"]⟩ := rfl
  have leads : path.selectFirst doc = some [2] := by cbv
  have leadsAgain : path.selectFirst grown = some [0, 1, 0] := by cbv
  obtain ⟨old, -, first, -⟩ := appendAt_keeps_selection doc child [0] path found
  refine ⟨leads, leadsAgain, (old [2] ⟨"b", [], []⟩ rfl).mpr ?_, first [2] leads⟩
  exact (NodePath.selectFirst_eq_some_iff.mp leads).1

end Element

end DocPipeline
