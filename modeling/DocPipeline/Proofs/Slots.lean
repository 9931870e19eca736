import DocPipeline.Proofs.LastPosition
import DocPipeline.Proofs.NameMap
import DocPipeline.SlotStore

/-!
# Writers of slots

Of the stages that write a slot, the last one counts: its result is what is found there. A slot
without a name has no writer.

## Main definitions

* `lastWriter?`: the last position in a list of slots that writes a slot.

## Main results

* `lastWriter?_append_singleton`: one more position.
* `lastWriter?_eq_some_iff`: which position it is.
* `exists_lastWriter?`: slots with a name that are written have a last writer.
* `SlotStore.get?_put`: a store after one more result.
-/

namespace DocPipeline

variable {slots : List String} {slot : String}

/-- The last position that writes a slot, in the list of the slots that are written. -/
def lastWriter? (slots : List String) (slot : String) : Option Nat :=
  (slots.zipIdx.filter fun (written, _) => written ≠ "" ∧ written = slot).getLast?.map (·.2)

@[simp] theorem lastWriter?_nil (slot : String) : lastWriter? [] slot = none := rfl

/-- The last writer is the last position that names the slot, unless the slot has no name. -/
theorem lastWriter?_eq (slots : List String) (slot : String) :
    lastWriter? slots slot = lastWhere? (fun written => written ≠ "" ∧ written = slot) slots := rfl

/-- One more position is the last writer of its own slot, and of no other. -/
theorem lastWriter?_append_singleton (slots : List String) (written slot : String) :
    lastWriter? (slots ++ [written]) slot =
      if written ≠ "" ∧ written = slot then some slots.length else lastWriter? slots slot := by
  rw [lastWriter?_eq, lastWhere?_append_singleton, ← lastWriter?_eq]
  by_cases writes : written ≠ "" ∧ written = slot
  · rw [if_pos writes, if_pos (decide_eq_true writes)]
  · rw [if_neg writes, if_neg (by simpa using writes)]

/-- The last writer of a slot writes it, and nobody behind it does. -/
theorem lastWriter?_eq_some_iff {writer : Nat} :
    lastWriter? slots slot = some writer ↔
      slot ≠ "" ∧ slots[writer]? = some slot ∧
        ∀ later, writer < later → slots[later]? ≠ some slot := by
  rw [lastWriter?_eq, lastWhere?_eq_some_iff]
  constructor
  · rintro ⟨⟨written, found, writes⟩, last⟩
    obtain ⟨named, rfl⟩ := of_decide_eq_true writes
    refine ⟨named, found, fun later behind again => ?_⟩
    exact of_decide_eq_false (last later _ behind again) ⟨named, rfl⟩
  · rintro ⟨named, found, last⟩
    refine ⟨⟨slot, found, decide_eq_true ⟨named, rfl⟩⟩, fun later written behind there => ?_⟩
    refine decide_eq_false fun ⟨_, same⟩ => last later behind ?_
    rw [there, same]

/-- A slot with a name that is written at all has a last writer. -/
theorem exists_lastWriter? (named : slot ≠ "") (written : slot ∈ slots) :
    ∃ writer, lastWriter? slots slot = some writer := by
  induction slots using List.reverseRecOn with
  | nil => cases written
  | append_singleton slots last ih =>
      rw [lastWriter?_append_singleton]
      by_cases writes : last ≠ "" ∧ last = slot
      · exact ⟨slots.length, if_pos writes⟩
      · rw [if_neg writes]
        refine ih ((List.mem_append.mp written).resolve_right fun atEnd => writes ?_)
        obtain rfl := List.mem_singleton.mp atEnd
        exact ⟨named, rfl⟩

namespace SlotStore

@[simp] theorem get?_empty (slot : String) : empty.get? slot = none := rfl

/-- A result that is put into a slot is found there, unless the slot has no name. -/
theorem get?_put (store : SlotStore) (written slot : String) (result : StageResult) :
    (store.put written result).get? slot =
      if written ≠ "" ∧ written = slot then some result else store.get? slot := by
  rw [put]
  split
  · next unnamed => rw [if_neg fun writes => writes.1 unnamed]
  · next named =>
      rw [get?, NameMap.get?_insert]
      by_cases same : slot = written
      · rw [if_pos same, if_pos ⟨named, same.symm⟩]
      · rw [if_neg same, if_neg fun writes => same writes.2.symm]
        rfl

end SlotStore

end DocPipeline
