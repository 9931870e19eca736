import DocPipeline.Json.Value
import DocPipeline.Proofs.NameMap

/-!
# Records written and read

A record is written as an object whose fields are joined from parts: those that are always there,
and those that are left out when they have no value of their own. A field is read by its name,
wherever among the parts it stands. So for a record to be read back it is enough that every field is
found as it was written, and that its reader undoes its writer.

## Main definitions

* `Json.Restores`: a reader that undoes a writer.
* `Json.Omits`: an object without a field of some name.

## Main results

* `Json.field?_append`: finding a field among joined parts.
* `Json.required_eq`, `Json.orElse_eq`, `Json.optional_eq`: reading one field back.
* `Json.items_restores`, `Json.map_restores`: lists and maps read back.
-/

namespace DocPipeline.Json

variable {α β : Type} {fields : List (String × Json)} {name : String}

/-! ### Finding fields -/

@[simp] theorem field?_nil (name : String) : field? [] name = none := rfl

@[simp] theorem field?_cons (key : String) (value : Json) (fields : List (String × Json))
    (name : String) :
    field? ((key, value) :: fields) name = if key = name then some value else field? fields name :=
  rfl

/-- **A field among joined parts** is found in the first part that has it. -/
@[simp] theorem field?_append (first second : List (String × Json)) (name : String) :
    field? (first ++ second) name = (field? first name).or (field? second name) := by
  induction first with
  | nil => rfl
  | cons head rest ih =>
      rw [List.cons_append, field?_cons, field?_cons, ih]
      split <;> rfl

/-- A field that is left out when it has no value. -/
@[simp] theorem field?_fieldIfSome (key : String) (write : α → Json) (value : Option α)
    (name : String) :
    field? (fieldIfSome key write value) name = if key = name then value.map write else none := by
  cases value <;> simp [fieldIfSome]

/-- An object without a field of some name. -/
def Omits (json : Json) (name : String) : Prop :=
  ∃ fields, json = .obj fields ∧ field? fields name = none

theorem omits_obj : (obj fields).Omits name ↔ field? fields name = none := by
  simp [Omits]

/-! ### Readers that undo writers -/

/-- A reader that undoes a writer. -/
def Restores (write : α → β) (read : β → Option α) : Prop :=
  ∀ value, read (write value) = some value

/-- What is read back differs where it differed before it was written. -/
theorem Restores.injective {write : α → β} {read : β → Option α}
    (restores : Restores write read) : Function.Injective write := by
  intro first second same
  have back := restores first
  rw [same, restores second] at back
  exact (Option.some.inj back).symm

theorem text_restores : Restores str text? := fun _ => rfl

theorem truth_restores : Restores bool truth? := fun _ => rfl

/-- Items read back one by one, if each of them is. -/
theorem mapM_map_of_forall_mem {write : α → β} {read : β → Option α} {items : List α}
    (each : ∀ item ∈ items, read (write item) = some item) :
    (items.map write).mapM read = some items := by
  induction items with
  | nil => rfl
  | cons item items ih =>
      obtain ⟨first, rest⟩ := List.forall_mem_cons.mp each
      rw [List.map_cons, List.mapM_cons, first, ih rest]
      rfl

theorem Restores.mapM {write : α → β} {read : β → Option α} (restores : Restores write read)
    (items : List α) : (items.map write).mapM read = some items :=
  mapM_map_of_forall_mem fun item _ => restores item

section Values

variable {write : α → Json} {read : Json → Option α} (restores : Restores write read)

include restores

/-- A field that has to be there, read back. -/
theorem required_eq {value : α} (found : field? fields name = some (write value)) :
    required fields name read = some value := by
  rw [required, found, Option.bind_some, restores]

/-- A field that is there though it may be left out, read back. -/
theorem orElse_eq {value absent : α} (found : field? fields name = some (write value)) :
    orElse fields name read absent = some value := by
  rw [orElse, found]
  exact restores value

/-- A field that is left out for one value only, read back: a missing field stands for that
value. -/
theorem orElse_eq_of_omitted {value absent : α} {omitted : Bool}
    (found : field? fields name = if omitted then none else some (write value))
    (only : omitted = true → value = absent) : orElse fields name read absent = some value := by
  cases omitted with
  | true =>
      rw [orElse, found, only rfl]
      rfl
  | false => exact orElse_eq restores found

/-- A field that is left out when it has no value, read back. No value may look like a missing
one. -/
theorem optional_eq {value : Option α} (present : ∀ value, write value ≠ .null)
    (found : field? fields name = value.map write) : optional fields name read = some value := by
  rw [optional, found]
  cases value with
  | none => rfl
  | some value =>
      rw [Option.map_some]
      split
      · next missing => cases missing
      · next null => exact absurd (Option.some.inj null) (present value)
      · next written _ same =>
          obtain rfl := Option.some.inj same
          rw [restores, Option.map_some]

/-- **A list read back.** -/
theorem items_restores : Restores (fun items : List α => arr (items.map write)) (items? read) :=
  restores.mapM

/-- **A map read back.** Its fields are written in order of name, and none of them twice. -/
theorem map_restores : Restores (ofMap write) (map? read) := by
  intro m
  have entry : Restores (fun entry : String × α => (entry.1, write entry.2))
      (fun entry => (read entry.2).map (entry.1, ·)) := by
    intro entry
    simp [restores entry.2]
  have entries := entry.mapM m.entries
  simp only [ofMap, map?]
  rw [entries]
  simp [NameMap.ofList_entries]

end Values

end DocPipeline.Json
