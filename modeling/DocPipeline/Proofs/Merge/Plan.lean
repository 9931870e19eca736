import DocPipeline.Merge.Plan
import DocPipeline.Proofs.Document.Growth

/-!
# What merging does

A merge folds its rules over the document of the first slot. Each rule takes its elements from the
document in its own slot, as it was stored before the merge, and puts them behind the children of
the first element that its destination path selects in the document made so far. The document of the
first slot stays where it was within the merged one, and the elements that rules take are all that
is added.

## Main definitions

* `SlotStore.Holds`: a slot holds a document.
* `MergeRule.selection`: the elements that a rule takes.
* `MergePlan.graft`: a document with what one rule adds.
* `MergePlan.faults`: what can be wrong with a merge, in the order in which it is looked at.

## Main results

* `MergePlan.apply_eq`: a merge is the fold of its rules, or ends with what is wrong first.
* `MergePlan.graft_embeds`, `MergePlan.graft_count`: what one rule does to a document.
* `MergePlan.apply_grows`: what merging does.
-/

namespace DocPipeline

/-! ### Documents in slots -/

/-- A slot holds a document: a result with a payload that is not empty and that is or writes it. -/
def SlotStore.Holds (store : SlotStore) (slot : String) (doc : Element) : Prop :=
  ∃ result, store.get? slot = some result ∧ result.payload.isEmpty = false ∧
    result.payload.toDocument = .ok doc

/-- The document that a slot holds, if it holds one. -/
def SlotStore.document? (store : SlotStore) (slot : String) : Option Element :=
  ((store.get? slot).filter fun result => !result.payload.isEmpty).bind
    (·.payload.toDocument.toOption)

/-- What is wrong with a slot that holds no document: nothing is in it, or what is in it is empty or
cannot be read. -/
def SlotStore.fault? (store : SlotStore) (slot : String) : Option MergeError :=
  match store.get? slot with
  | none => some (.missingSlot slot)
  | some result =>
    if result.payload.isEmpty then some (.notADocument slot)
    else
      match result.payload.toDocument with
      | .ok _ => none
      | .error fault => some (.malformed fault)

namespace SlotStore

variable {store : SlotStore} {slot : String}

theorem document?_eq_some_iff {doc : Element} :
    store.document? slot = some doc ↔ store.Holds slot doc := by
  rw [document?, Holds]
  cases store.get? slot with
  | none => simp
  | some result =>
      cases vacant : result.payload.isEmpty <;> cases read : result.payload.toDocument <;>
        simp [Option.filter, vacant, read, Except.toOption]

theorem Holds.document?_eq {doc : Element} (holds : store.Holds slot doc) :
    store.document? slot = some doc := by
  rwa [document?_eq_some_iff]

/-- A slot holds one document at most. -/
theorem Holds.unique {doc other : Element} (holds : store.Holds slot doc)
    (again : store.Holds slot other) : doc = other :=
  Option.some.inj (holds.document?_eq.symm.trans again.document?_eq)

/-- A slot holds a document or something is wrong with it. -/
theorem fault?_eq_none_iff : store.fault? slot = none ↔ ∃ doc, store.Holds slot doc := by
  simp only [fault?, Holds]
  cases store.get? slot with
  | none => simp
  | some result =>
      cases vacant : result.payload.isEmpty <;> cases read : result.payload.toDocument <;>
        simp [vacant, read]

theorem Holds.fault?_eq {doc : Element} (holds : store.Holds slot doc) :
    store.fault? slot = none := by
  rw [fault?_eq_none_iff]
  exact ⟨doc, holds⟩

end SlotStore

namespace MergePlan

variable {store : SlotStore} {slot : String}

theorem slotDocument_of_holds {doc : Element} (holds : store.Holds slot doc) :
    slotDocument store slot = .ok doc := by
  obtain ⟨result, present, occupied, reads⟩ := holds
  simp [slotDocument, present, occupied, reads, Except.mapError]

theorem slotDocument_of_fault {error : MergeError} (faulty : store.fault? slot = some error) :
    slotDocument store slot = .error error := by
  rw [SlotStore.fault?] at faulty
  rw [slotDocument]
  cases present : store.get? slot with
  | none => simpa [present] using faulty
  | some result =>
      cases vacant : result.payload.isEmpty with
      | true => simpa [present, vacant] using faulty
      | false =>
          cases read : result.payload.toDocument with
          | ok doc => simp [present, vacant, read] at faulty
          | error fault => simpa [present, vacant, read, Except.mapError] using faulty

end MergePlan

/-! ### One rule -/

namespace MergeRule

variable (rule : MergeRule) (store : SlotStore)

/-- The elements that a rule takes from the document in its slot. -/
def selection : List Element :=
  ((store.document? rule.slot).map (·.selected rule.sourcePath)).getD []

theorem selection_of_holds {source : Element} (holds : store.Holds rule.slot source) :
    rule.selection store = source.selected rule.sourcePath := by
  rw [selection, holds.document?_eq]
  rfl

/-- What is wrong with the destination of a rule: there are elements to put there, and nothing to
put them into. -/
def unmatched? (dest : Element) : Option MergeError :=
  if rule.selection store ≠ [] ∧ rule.destPath.selectFirst dest = none then
    some (.unmatchedDestination rule.destPath.toString)
  else none

theorem unmatched?_eq_none_iff {dest : Element} :
    rule.unmatched? store dest = none ↔
      (rule.selection store ≠ [] → ∃ address, rule.destPath.selectFirst dest = some address) := by
  rw [unmatched?]
  cases rule.destPath.selectFirst dest <;> simp

end MergeRule

namespace MergePlan

variable (store : SlotStore)

/-- A document with what one rule adds: the elements that it takes, behind the children of the first
element that its destination path selects. -/
def graft (dest : Element) (rule : MergeRule) : Element :=
  match rule.selection store with
  | [] => dest
  | first :: rest =>
    ((rule.destPath.selectFirst dest).bind
      (dest.update? (·.withChildren (first :: rest)))).getD dest

/-- One rule applied. -/
theorem applyRule_eq (dest : Element) (rule : MergeRule) :
    applyRule store dest rule =
      ((store.fault? rule.slot).or (rule.unmatched? store dest)).elim (.ok (graft store dest rule))
        .error := by
  rw [applyRule]
  cases faulty : store.fault? rule.slot with
  | some error =>
      rw [slotDocument_of_fault faulty]
      rfl
  | none =>
      rw [SlotStore.fault?_eq_none_iff] at faulty
      obtain ⟨source, holds⟩ := faulty
      rw [MergeRule.unmatched?, graft, rule.selection_of_holds store holds,
        slotDocument_of_holds holds]
      simp only [bind, Except.bind, Element.splice]
      cases source.selected rule.sourcePath with
      | nil => rfl
      | cons first rest =>
          cases target : rule.destPath.selectFirst dest with
          | none => rfl
          | some address =>
              obtain ⟨e, there⟩ := NodePath.exists_of_selectFirst target
              obtain ⟨merged, updated⟩ :=
                Element.exists_update? (·.withChildren (first :: rest)) there
              simp only [Option.bind_some, updated]
              rfl

/-- A rule lets the document grow. -/
theorem graft_embeds (dest : Element) (rule : MergeRule) :
    dest.Embeds (graft store dest rule) := by
  rw [graft]
  cases rule.selection store with
  | nil => exact Element.Embeds.refl dest
  | cons first rest =>
      cases rule.destPath.selectFirst dest with
      | none => exact Element.Embeds.refl dest
      | some address =>
          cases updated : dest.update? (·.withChildren (first :: rest)) address with
          | none => simpa [updated] using Element.Embeds.refl dest
          | some merged =>
              simpa [updated] using
                Element.update?_embeds (·.embeds_withChildren (first :: rest)) updated

/-- A rule that finds its destination adds the elements that it takes, and no others. -/
theorem graft_count {dest : Element} {rule : MergeRule}
    (matched : rule.unmatched? store dest = none) :
    (graft store dest rule).count =
      dest.count + ((rule.selection store).map Element.count).sum := by
  rw [MergeRule.unmatched?] at matched
  rw [graft]
  cases taken : rule.selection store with
  | nil => simp
  | cons first rest =>
      cases target : rule.destPath.selectFirst dest with
      | none => simp [taken, target] at matched
      | some address =>
          obtain ⟨e, there⟩ := NodePath.exists_of_selectFirst target
          obtain ⟨merged, updated⟩ :=
            Element.exists_update? (·.withChildren (first :: rest)) there
          simpa [updated] using Element.update?_count updated

/-! ### Whole merges -/

/-- What can be wrong with rules, in the order in which it is looked at: for each rule its slot, and
then its destination in the document made so far. -/
def ruleFaults : (dest : Element) → List MergeRule → List (Option MergeError)
  | _, [] => []
  | dest, rule :: rules =>
    store.fault? rule.slot :: rule.unmatched? store dest ::
      ruleFaults (graft store dest rule) rules

/-- What can be wrong with a merge, in the order in which it is looked at. -/
def faults (plan : MergePlan) : List (Option MergeError) :=
  store.fault? plan.destination ::
    (store.document? plan.destination).elim [] (ruleFaults store · plan.rules)

theorem foldlM_applyRule (dest : Element) (rules : List MergeRule) :
    rules.foldlM (applyRule store) dest =
      ((ruleFaults store dest rules).findSome? id).elim (.ok (rules.foldl (graft store) dest))
        .error := by
  induction rules generalizing dest with
  | nil => rfl
  | cons rule rules ih =>
      rw [List.foldlM_cons, applyRule_eq, ruleFaults, List.findSome?_cons, List.findSome?_cons]
      cases store.fault? rule.slot with
      | some error => rfl
      | none =>
          cases rule.unmatched? store dest with
          | some error => rfl
          | none => exact ih (graft store dest rule)

/-- **A merge is the fold of its rules** over the document of the first slot, or ends with what is
wrong first. -/
theorem apply_of_holds {plan : MergePlan} {dest : Element}
    (holds : store.Holds plan.destination dest) :
    plan.apply store =
        ((ruleFaults store dest plan.rules).findSome? id).elim
          (.ok (plan.rules.foldl (graft store) dest)) .error ∧
      (plan.faults store).findSome? id = (ruleFaults store dest plan.rules).findSome? id := by
  rw [apply, slotDocument_of_holds holds, faults, holds.fault?_eq, holds.document?_eq]
  exact ⟨foldlM_applyRule store dest plan.rules, rfl⟩

/-- Without a document in the first slot, nothing is merged. -/
theorem apply_of_fault {plan : MergePlan} {error : MergeError}
    (faulty : store.fault? plan.destination = some error) :
    plan.apply store = .error error ∧ (plan.faults store).findSome? id = some error := by
  rw [apply, slotDocument_of_fault faulty, faults, faulty]
  exact ⟨rfl, rfl⟩

theorem apply_eq_ok_iff {plan : MergePlan} {result : Element} :
    plan.apply store = .ok result ↔
      ∃ dest, store.Holds plan.destination dest ∧
        (ruleFaults store dest plan.rules).findSome? id = none ∧
        plan.rules.foldl (graft store) dest = result := by
  cases first : store.fault? plan.destination with
  | some error =>
      rw [(apply_of_fault store first).1]
      refine ⟨nofun, fun ⟨dest, holds, _⟩ => ?_⟩
      rw [holds.fault?_eq] at first
      cases first
  | none =>
      rw [SlotStore.fault?_eq_none_iff] at first
      obtain ⟨dest, holds⟩ := first
      rw [(apply_of_holds store holds).1]
      constructor
      · intro applied
        cases wrong : (ruleFaults store dest plan.rules).findSome? id with
        | some error =>
            rw [wrong] at applied
            cases applied
        | none =>
            rw [wrong] at applied
            exact ⟨dest, holds, wrong, Except.ok.inj applied⟩
      · rintro ⟨other, again, clear, rfl⟩
        obtain rfl := holds.unique again
        rw [clear]
        rfl

theorem apply_eq_error_iff {plan : MergePlan} {error : MergeError} :
    plan.apply store = .error error ↔ (plan.faults store).findSome? id = some error := by
  cases first : store.fault? plan.destination with
  | some fault =>
      rw [(apply_of_fault store first).1, (apply_of_fault store first).2]
      simp
  | none =>
      rw [SlotStore.fault?_eq_none_iff] at first
      obtain ⟨dest, holds⟩ := first
      rw [(apply_of_holds store holds).1, (apply_of_holds store holds).2]
      cases (ruleFaults store dest plan.rules).findSome? id <;> simp

/-! ### When nothing is wrong -/

/-- Nothing is wrong with rules if their slots hold documents and each rule that takes something
finds its destination in the document that the rules before it make. -/
theorem ruleFaults_clear_iff {dest : Element} {rules : List MergeRule} :
    (ruleFaults store dest rules).findSome? id = none ↔
      (∀ rule ∈ rules, ∃ source, store.Holds rule.slot source) ∧
        ∀ before rule after, rules = before ++ rule :: after → rule.selection store ≠ [] →
          ∃ address,
            rule.destPath.selectFirst (before.foldl (graft store) dest) = some address := by
  simp only [← SlotStore.fault?_eq_none_iff, ← MergeRule.unmatched?_eq_none_iff]
  induction rules generalizing dest with
  | nil => simp [ruleFaults]
  | cons rule rules ih =>
      rw [ruleFaults, List.findSome?_cons, List.findSome?_cons, List.forall_mem_cons]
      cases store.fault? rule.slot with
      | some error => simp
      | none =>
          cases own : rule.unmatched? store dest with
          | some error =>
              refine ⟨nofun, fun ⟨_, matched⟩ => ?_⟩
              have first := matched [] rule rules rfl
              rw [List.foldl_nil, own] at first
              cases first
          | none =>
              refine ih.trans (and_congr (by simp) ⟨fun later => ?_, fun all => ?_⟩)
              · rintro (_ | ⟨first, before⟩) other after split
                · obtain ⟨rfl, -⟩ := List.cons.inj split
                  exact own
                · obtain ⟨rfl, rest⟩ := List.cons.inj split
                  exact later before other after rest
              · intro before other after split
                exact all (rule :: before) other after (by rw [split, List.cons_append])

/-- Rules let the document grow. -/
theorem foldl_graft_embeds (dest : Element) (rules : List MergeRule) :
    dest.Embeds (rules.foldl (graft store) dest) := by
  induction rules generalizing dest with
  | nil => exact Element.Embeds.refl dest
  | cons rule rules ih => exact (graft_embeds store dest rule).trans (ih _)

/-- Rules that find their destinations add the elements that they take, and no others. -/
theorem foldl_graft_count {dest : Element} {rules : List MergeRule}
    (clear : (ruleFaults store dest rules).findSome? id = none) :
    (rules.foldl (graft store) dest).count =
      dest.count + ((rules.flatMap (·.selection store)).map Element.count).sum := by
  induction rules generalizing dest with
  | nil => simp
  | cons rule rules ih =>
      simp only [ruleFaults, List.findSome?_eq_none_iff, List.forall_mem_cons, id_eq] at clear
      obtain ⟨-, own, later⟩ := clear
      rw [List.foldl_cons, ih (List.findSome?_eq_none_iff.mpr later), graft_count store own,
        List.flatMap_cons, List.map_append, List.sum_append, Nat.add_assoc]

/-- **What merging does.** A merge succeeds if every slot holds a document and each rule that takes
something finds its destination in the document that the rules before it make; it makes what the
rules make one after the other, which has in it all of the document of the first slot, and the
elements taken besides and no others. Otherwise it says what is wrong first. -/
theorem apply_grows (plan : MergePlan) (store : SlotStore) :
    ((∃ result, plan.apply store = .ok result) ↔
        ∃ dest, store.Holds plan.destination dest ∧
          (∀ rule ∈ plan.rules, ∃ source, store.Holds rule.slot source) ∧
          ∀ before rule after, plan.rules = before ++ rule :: after →
            rule.selection store ≠ [] →
            ∃ address,
              rule.destPath.selectFirst (before.foldl (graft store) dest) = some address) ∧
      (∀ result, plan.apply store = .ok result →
        ∃ dest, store.Holds plan.destination dest ∧
          result = plan.rules.foldl (graft store) dest ∧
          (∀ rule ∈ plan.rules, ∃ source, store.Holds rule.slot source ∧
            rule.selection store = source.selected rule.sourcePath) ∧
          (∀ address e, dest.at? address = some e →
            ∃ f, result.at? address = some f ∧ e.Embeds f) ∧
          result.count =
            dest.count + ((plan.rules.flatMap (·.selection store)).map Element.count).sum) ∧
      ∀ error, plan.apply store = .error error ↔ (plan.faults store).findSome? id = some error := by
  refine ⟨⟨?_, ?_⟩, fun result applied => ?_, fun error => apply_eq_error_iff store⟩
  · rintro ⟨result, applied⟩
    obtain ⟨dest, holds, clear, -⟩ := (apply_eq_ok_iff store).mp applied
    exact ⟨dest, holds, (ruleFaults_clear_iff store).mp clear⟩
  · rintro ⟨dest, holds, fine⟩
    exact ⟨_, (apply_eq_ok_iff store).mpr
      ⟨dest, holds, (ruleFaults_clear_iff store).mpr fine, rfl⟩⟩
  · obtain ⟨dest, holds, clear, rfl⟩ := (apply_eq_ok_iff store).mp applied
    refine ⟨dest, holds, rfl, fun rule mem => ?_, fun address e found =>
      (foldl_graft_embeds store dest plan.rules).at? found, foldl_graft_count store clear⟩
    obtain ⟨source, held⟩ := ((ruleFaults_clear_iff store).mp clear).1 rule mem
    exact ⟨source, held, rule.selection_of_holds store held⟩

/-- A document may be put into itself, and then once more into what was put there first. -/
theorem apply_to_itself :
    let store : SlotStore := SlotStore.empty.put "s" (.ofPayload (.document ⟨"a", [], []⟩))
    let plan : MergePlan :=
      ⟨"s", [⟨"s", ⟨.root, .any, []⟩, ⟨.root, .any, []⟩⟩,
        ⟨"s", ⟨.root, .any, []⟩, ⟨.belowRoot, .any, []⟩⟩]⟩
    ∃ result, plan.apply store = .ok result ∧ result.count = 3 := by
  intro store plan
  obtain ⟨-, makes, -⟩ := plan.apply_grows store
  have applied : plan.apply store =
      .ok ⟨"a", [], [.element ⟨"a", [], [.element ⟨"a", [], []⟩]⟩]⟩ := rfl
  have holds : store.Holds "s" ⟨"a", [], []⟩ := ⟨_, rfl, rfl, rfl⟩
  obtain ⟨dest, held, -, -, -, count⟩ := makes _ applied
  obtain rfl := holds.unique held
  exact ⟨_, applied, count⟩

end MergePlan

end DocPipeline
