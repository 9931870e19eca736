import DocPipeline.Config.Basic
import DocPipeline.Merge.Splice
import DocPipeline.SlotStore

/-!
# Merge plans

The merge rules of a pipeline with their paths read. The first rule names the slot whose document
the others append to, one after the other.

## Main definitions

* `MergePlan.compile`: the plan of merge rules, if there are two at least.
* `MergePlan.apply`: the merged document of a store.
-/

namespace DocPipeline

/-- A merge rule behind the first, its paths read. -/
structure MergeRule where
  slot : String
  sourcePath : NodePath
  destPath : NodePath
deriving DecidableEq

/-- Merge rules, their paths read. -/
structure MergePlan where
  destination : String
  rules : List MergeRule
deriving DecidableEq

namespace MergePlan

/-! ### Reading rules -/

/-- The path that a rule gives under a name; it has to be there and must not be blank. -/
def requiredPath (slot name : String) (expression : Option String) :
    Except ConfigurationError NodePath :=
  match expression with
  | none => .error (.missingPath slot name)
  | some expression =>
    if Text.isBlank expression then .error (.missingPath slot name)
    else NodePath.compile expression

/-- A rule with its paths read, the source path first. -/
def compileRule (spec : MergeSpec) : Except ConfigurationError MergeRule := do
  let sourcePath ← requiredPath spec.source "xpath-source" spec.sourcePath
  let destPath ← requiredPath spec.source "xpath-dest" spec.destPath
  .ok ⟨spec.source, sourcePath, destPath⟩

/-- The plan of merge rules. One rule alone has nothing to merge, and the paths of the first rule
are not looked at. -/
def compile : List MergeSpec → Except ConfigurationError (Option MergePlan)
  | [] => .ok none
  | [_] => .ok none
  | first :: second :: rest => do
      let rules ← (second :: rest).mapM compileRule
      .ok (some ⟨first.source, rules⟩)

/-! ### Merging -/

/-- The document in a slot. -/
def slotDocument (store : SlotStore) (slot : String) : Except MergeError Element :=
  match store.get? slot with
  | none => .error (.missingSlot slot)
  | some result =>
    if result.payload.isEmpty then .error (.notADocument slot)
    else result.payload.toDocument.mapError .malformed

/-- A document with what one rule appends to it. -/
def applyRule (store : SlotStore) (dest : Element) (rule : MergeRule) :
    Except MergeError Element := do
  let source ← slotDocument store rule.slot
  let (merged, _) ← dest.splice source rule.sourcePath rule.destPath
  .ok merged

/-- The merged document of a store. -/
def apply (plan : MergePlan) (store : SlotStore) : Except MergeError Element := do
  let dest ← slotDocument store plan.destination
  plan.rules.foldlM (applyRule store) dest

end MergePlan

end DocPipeline
