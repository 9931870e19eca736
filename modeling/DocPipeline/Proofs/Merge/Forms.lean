import DocPipeline.Proofs.Document.Canonical
import DocPipeline.Proofs.Merge.Plan
import DocPipeline.Proofs.Payload
import DocPipeline.Proofs.Slots

/-!
# Documents in their forms

A document is passed between stages as it is, as its text, or as the bytes of its text. To a merge
it makes no difference which of them a slot holds, as long as the document is canonical; and what
is merged from canonical documents is canonical, so that it can be passed on in either form too.

## Main definitions

* `MergePlan.RefersTo`: the documents that a merge looks at.

## Main results

* `Payload.toDocument_text`, `Payload.toDocument_bytes`: a canonical document is read back from
  either form.
* `MergePlan.apply_congr`: a merge looks at nothing but the documents in the slots.
* `MergePlan.apply_all`: what holds of all elements of the documents referred to holds of all
  elements of the merged one.
* `MergePlan.apply_canonical`: merging canonical documents, in whatever form they are passed.
-/

namespace DocPipeline

/-! ### Text and bytes -/

namespace Payload

variable {doc : Element}

/-- The text of a document is not empty: it starts with a bracket. -/
theorem toXml_ne_empty (doc : Element) : doc.toXml ≠ "" := by
  intro empty
  obtain ⟨cs, starts⟩ := Markup.exists_writeElement doc
  have chars := congrArg String.toList empty
  rw [Element.toXml, String.toList_ofList, starts] at chars
  cases chars

theorem isEmpty_text : (Payload.text doc.toXml).isEmpty = false := by
  simpa [isEmpty] using toXml_ne_empty doc

theorem isEmpty_bytes : (Payload.bytes (bytesOfText doc.toXml)).isEmpty = false := by
  cases bytes : bytesOfText doc.toXml with
  | cons first rest => rfl
  | nil =>
      have read := textOfBytes?_bytesOfText doc.toXml
      rw [bytes] at read
      exact absurd (Option.some.inj read).symm (toXml_ne_empty doc)

/-- A canonical document is read back from its text. -/
theorem toDocument_text (canonical : doc.IsCanonical) :
    (Payload.text doc.toXml).toDocument = .ok doc :=
  canonical.parse_own

/-- A canonical document is read back from the bytes of its text. -/
theorem toDocument_bytes (canonical : doc.IsCanonical) :
    (Payload.bytes (bytesOfText doc.toXml)).toDocument = .ok doc := by
  rw [toDocument, textOfBytes?_bytesOfText]
  exact canonical.parse_own

end Payload

namespace MergePlan

variable {store other : SlotStore} {plan : MergePlan}

/-! ### What a merge looks at -/

/-- A rule looks at nothing but the document in its slot. -/
theorem applyRule_congr (same : ∀ slot, slotDocument store slot = slotDocument other slot)
    (dest : Element) (rule : MergeRule) :
    applyRule store dest rule = applyRule other dest rule := by
  rw [applyRule, applyRule, same]

/-- **A merge looks at nothing but the documents in the slots.** -/
theorem apply_congr (same : ∀ slot, slotDocument store slot = slotDocument other slot) :
    plan.apply store = plan.apply other := by
  have rules : applyRule store = applyRule other :=
    funext fun dest => funext fun rule => applyRule_congr same dest rule
  rw [apply, apply, same, rules]

/-- A result put in place of another one is not noticed if it holds the same document. -/
theorem apply_put {slot : String} {result : StageResult} {doc : Element}
    (held : store.Holds slot doc) (occupied : result.payload.isEmpty = false)
    (reads : result.payload.toDocument = .ok doc) :
    plan.apply (store.put slot result) = plan.apply store := by
  refine apply_congr fun name => ?_
  by_cases written : slot ≠ "" ∧ slot = name
  · obtain ⟨named, rfl⟩ := written
    have found : (store.put slot result).get? slot = some result := by
      rw [SlotStore.get?_put, if_pos ⟨named, rfl⟩]
    rw [slotDocument_of_holds held, slotDocument_of_holds ⟨result, found, occupied, reads⟩]
  · rw [slotDocument, slotDocument, SlotStore.get?_put, if_neg written]

/-! ### What a merge makes -/

/-- The documents that a merge looks at: those in the slots of its rules, the first one included. -/
def RefersTo (plan : MergePlan) (store : SlotStore) (doc : Element) : Prop :=
  store.Holds plan.destination doc ∨ ∃ rule ∈ plan.rules, store.Holds rule.slot doc

variable {holds : Element → Prop}

/-- What a rule takes is as the document is that it takes it from. -/
theorem selection_all {rule : MergeRule}
    (all : ∀ source, store.Holds rule.slot source → source.All holds) :
    ∀ e ∈ rule.selection store, e.All holds := by
  intro e mem
  rw [MergeRule.selection] at mem
  cases held : store.document? rule.slot with
  | none =>
      rw [held] at mem
      cases mem
  | some source =>
      rw [held] at mem
      obtain ⟨address, -, found⟩ := List.mem_filterMap.mp mem
      exact (all source (SlotStore.document?_eq_some_iff.mp held)).at? found

/-- One rule keeps what holds of all elements. -/
theorem graft_all (shallow : Element.IsShallow holds) {dest : Element} {rule : MergeRule}
    (all : dest.All holds) (added : ∀ e ∈ rule.selection store, e.All holds) :
    (graft store dest rule).All holds := by
  rw [graft]
  cases taken : rule.selection store with
  | nil => exact all
  | cons first rest =>
      rw [taken] at added
      cases rule.destPath.selectFirst dest with
      | none => exact all
      | some address =>
          cases updated : dest.update? (·.withChildren (first :: rest)) address with
          | none => simpa [updated] using all
          | some merged => simpa [updated] using all.update? shallow added updated

/-- **The merged document** is as the documents are that it is made from. -/
theorem apply_all (shallow : Element.IsShallow holds) {result : Element}
    (all : ∀ doc, plan.RefersTo store doc → doc.All holds)
    (applied : plan.apply store = .ok result) : result.All holds := by
  obtain ⟨dest, first, -, rfl⟩ := (apply_eq_ok_iff store).mp applied
  have added (rule : MergeRule) (mem : rule ∈ plan.rules) :=
    selection_all fun source held => all source (.inr ⟨rule, mem, held⟩)
  exact List.foldlRecOn plan.rules (graft store) (all dest (.inl first)) fun _ made rule mem =>
    graft_all shallow made (added rule mem)

/-- **Merging canonical documents.** What is made of them is canonical, is read back from its text
as it is, and has no names and keys but such as they have. Whether a slot holds a canonical document
as it is, as its text or as the bytes of its text makes no difference to what is merged, nor to what
goes wrong. -/
theorem apply_canonical (plan : MergePlan) (store : SlotStore) :
    (∀ result, (∀ doc, plan.RefersTo store doc → doc.IsCanonical) →
        plan.apply store = .ok result →
      result.IsCanonical ∧ Element.parse result.toXml = .ok result ∧
        ∀ fits : String → Prop,
          (∀ doc, plan.RefersTo store doc → doc.All (Element.Named fits)) →
          result.All (Element.Named fits)) ∧
      ∀ slot given doc, store.get? slot = some given → given.payload = .document doc →
          doc.IsCanonical →
        plan.apply (store.put slot { given with payload := .text doc.toXml }) =
            plan.apply store ∧
          plan.apply (store.put slot
              { given with payload := .bytes (Payload.bytesOfText doc.toXml) }) =
            plan.apply store := by
  refine ⟨fun result all applied => ?_, fun slot given doc found same canonical => ?_⟩
  · have canonical : result.IsCanonical := apply_all Element.isShallow_isTidy all applied
    exact ⟨canonical, canonical.parse_own,
      fun fits named => apply_all (Element.isShallow_named fits) named applied⟩
  · have held : store.Holds slot doc := ⟨given, found, by rw [same]; rfl, by rw [same]; rfl⟩
    exact ⟨apply_put held Payload.isEmpty_text (Payload.toDocument_text canonical),
      apply_put held Payload.isEmpty_bytes (Payload.toDocument_bytes canonical)⟩

/-- A document with a text in it, put into itself, in each of its forms. -/
theorem apply_canonical_to_itself :
    let doc : Element := ⟨"a", [("k", "v")], [.text "x"]⟩
    let merged : Element := ⟨"a", [("k", "v")], [.text "x", .element doc]⟩
    let given : StageResult := .ofPayload (.document doc)
    let store : SlotStore := SlotStore.empty.put "s" given
    let plan : MergePlan := ⟨"s", [⟨"s", ⟨.root, .any, []⟩, ⟨.root, .any, []⟩⟩]⟩
    Element.parse merged.toXml = .ok merged ∧
      plan.apply (store.put "s" { given with payload := .text doc.toXml }) = .ok merged ∧
      plan.apply (store.put "s" { given with payload := .bytes (Payload.bytesOfText doc.toXml) }) =
        .ok merged := by
  intro doc merged given store plan
  obtain ⟨makes, forms⟩ := plan.apply_canonical store
  have canonical : doc.IsCanonical := by decide
  have applied : plan.apply store = .ok merged := rfl
  have holds : store.Holds "s" doc := ⟨given, rfl, rfl, rfl⟩
  have all (referred : Element) (refers : plan.RefersTo store referred) : referred.IsCanonical := by
    rcases refers with held | ⟨rule, mem, held⟩
    · exact holds.unique held ▸ canonical
    · obtain rfl := List.mem_singleton.mp mem
      exact holds.unique held ▸ canonical
  obtain ⟨text, bytes⟩ := forms "s" given doc rfl rfl canonical
  exact ⟨(makes merged all applied).2.1, text.trans applied, bytes.trans applied⟩

end MergePlan

end DocPipeline
