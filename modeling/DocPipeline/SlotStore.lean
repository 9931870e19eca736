import DocPipeline.Stage.Result

/-!
# Slots

The results of stages under the names of slots. A result that is put under the empty name is
dropped.
-/

namespace DocPipeline

/-- The results that are stored under the names of slots. -/
structure SlotStore where
  results : NameMap StageResult
deriving DecidableEq

namespace SlotStore

/-- The store without results. -/
def empty : SlotStore := ⟨.empty⟩

/-- The result in a slot. -/
def get? (store : SlotStore) (slot : String) : Option StageResult := store.results.get? slot

/-- Whether a slot holds a result. -/
def contains (store : SlotStore) (slot : String) : Bool := store.results.contains slot

/-- Puts a result into a slot, in place of the one there; a slot without a name takes nothing. -/
def put (store : SlotStore) (slot : String) (result : StageResult) : SlotStore :=
  if slot = "" then store else ⟨store.results.insert slot result⟩

/-- Takes the result out of a slot. -/
def take (store : SlotStore) (slot : String) : Option StageResult × SlotStore :=
  (store.get? slot, ⟨store.results.erase slot⟩)

/-- The names of the slots that hold a result, in order. -/
def names (store : SlotStore) : List String := store.results.names

/-- The number of slots that hold a result. -/
def size (store : SlotStore) : Nat := store.results.size

/-- Whether no slot holds a result. -/
def isEmpty (store : SlotStore) : Bool := store.results.isEmpty

end SlotStore

end DocPipeline
