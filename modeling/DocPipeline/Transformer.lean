import DocPipeline.Payload.Basic
import DocPipeline.Variables.Placeholder

/-!
# Transformers

A transformer turns one payload into another, by a transformation that it knows under a reference.
A blank reference means that there is nothing to do, and no transformer is asked.
-/

namespace DocPipeline

/-- Something that transforms payloads by reference. -/
structure Transformer where
  transform : (reference : String) → Payload → Variables → Except TransformError Payload

namespace Transformer

/-- A payload transformed; unchanged if the reference is blank. -/
def apply (transformer : Transformer) (reference : String) (input : Payload) (vars : Variables) :
    Except TransformError Payload :=
  if Text.isBlank reference then .ok input else transformer.transform reference input vars

/-- The transformer that changes nothing. -/
def identity : Transformer where
  transform _ input _ := .ok input

/-- A transformer that writes the reference in front of texts, and that knows one reference by
which it fails. -/
def tagging : Transformer where
  transform reference input _ :=
    if reference = "fail" then .error ⟨reference, "scripted transform failure"⟩
    else match input with
      | .text content => .ok (.text s!"{reference}:{content}")
      | .empty => .ok (.text s!"{reference}:")
      | other => .ok other

/-- The transformer of a name. -/
def ofName? (name : String) : Option Transformer :=
  if name = "tagging" then some tagging
  else if name = "identity" then some identity
  else none

end Transformer

end DocPipeline
