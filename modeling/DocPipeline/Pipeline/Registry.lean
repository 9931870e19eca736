import DocPipeline.Pipeline.Basic

/-!
# Pipeline registries

Pipelines under their names. A pipeline that leaves the registry, because it is removed or because
another one takes its name, is taken down; every operation says which pipelines left.

## Main definitions

* `PipelineRegistry.register`, `PipelineRegistry.remove`, `PipelineRegistry.clear`.
-/

namespace DocPipeline

/-- Pipelines under their names. -/
structure PipelineRegistry where
  pipelines : NameMap Pipeline := .empty

namespace PipelineRegistry

/-- The registry without pipelines. -/
def empty : PipelineRegistry := {}

/-- The pipeline of a name. -/
def get? (registry : PipelineRegistry) (name : String) : Option Pipeline :=
  registry.pipelines.get? name

/-- Whether a name has a pipeline. -/
def contains (registry : PipelineRegistry) (name : String) : Bool :=
  registry.pipelines.contains name

/-- The names that have a pipeline, in order. -/
def names (registry : PipelineRegistry) : List String := registry.pipelines.names

/-- The number of pipelines. -/
def size (registry : PipelineRegistry) : Nat := registry.pipelines.size

/-- Whether there are no pipelines. -/
def isEmpty (registry : PipelineRegistry) : Bool := registry.pipelines.isEmpty

/-- Registers a pipeline under its name; the pipeline that had the name leaves. -/
def register (registry : PipelineRegistry) (pipeline : Pipeline) :
    PipelineRegistry × Option Pipeline :=
  (⟨registry.pipelines.insert pipeline.name pipeline⟩, registry.get? pipeline.name)

/-- Removes the pipeline of a name, which leaves. -/
def remove (registry : PipelineRegistry) (name : String) : PipelineRegistry × Option Pipeline :=
  (⟨registry.pipelines.erase name⟩, registry.get? name)

/-- Removes the pipelines of some names, one after the other. -/
def removeAll (registry : PipelineRegistry) : List String → PipelineRegistry × List Pipeline
  | [] => (registry, [])
  | name :: rest =>
    let (registry, left) := registry.remove name
    let (registry, others) := registry.removeAll rest
    (registry, left.toList ++ others)

/-- Removes all pipelines, in order of their names. -/
def clear (registry : PipelineRegistry) : PipelineRegistry × List Pipeline :=
  registry.removeAll registry.names

end PipelineRegistry

end DocPipeline
