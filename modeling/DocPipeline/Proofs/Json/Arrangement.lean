import DocPipeline.Proofs.Json.Records

/-!
# The order of fields

An object says which value it has under which name. In what order its fields are listed is no part
of that: two values say the same if they are equal once all their fields are sorted by name. So a
value has to be read in the same way however its fields are arranged, and values that are to be told
apart have to differ in more than an arrangement.

## Main definitions

* `Json.sorted`: a value with its fields in order of name, at every depth.
* `Json.Arranges`: a way to arrange the fields of values.

## Main results

* `Json.field?_sortedFields`: sorting leaves every field what it is.
* `Json.arranges_id`, `Json.arranges_sorted`: leaving fields where they are is an arrangement, and
  sorting them is one.
* `Json.Arranges.list`: a list read back, item by item.
-/

namespace DocPipeline.Json

/-! ### Sorting -/

mutual

/-- A value with the fields of every object in order of name. Of two fields with one name the first
counts. -/
def sorted : Json → Json
  | .arr items => .arr (sortedItems items)
  | .obj fields => .obj (sortedFields fields)
  | other => other

/-- Values, each with its fields sorted. -/
def sortedItems : List Json → List Json
  | [] => []
  | item :: items => item.sorted :: sortedItems items

/-- Fields in order of name, each with its value sorted. -/
def sortedFields : List (String × Json) → List (String × Json)
  | [] => []
  | (name, value) :: fields => NameMap.insertEntry name value.sorted (sortedFields fields)

end

theorem sortedItems_eq_map (items : List Json) : sortedItems items = items.map sorted := by
  induction items with
  | nil => rfl
  | cons item items ih => rw [sortedItems, List.map_cons, ih]

/-- **Sorting leaves every field what it is.** -/
theorem field?_sortedFields (fields : List (String × Json)) (name : String) :
    field? (sortedFields fields) name = (field? fields name).map sorted := by
  induction fields with
  | nil => rfl
  | cons head fields ih =>
      obtain ⟨key, value⟩ := head
      rw [field?] at ih
      rw [sortedFields, field?, NameMap.lookup_insertEntry, ih, field?_cons]
      by_cases same : key = name
      · simp [same]
      · simp [same, Ne.symm same]

/-! ### Arrangements -/

/-- A way to arrange the fields of values. Texts and numbers stay what they are and lists keep their
order; an object has under every name what it had there, and one with a single field keeps it. -/
structure Arranges (arrange : Json → Json) : Prop where
  str (s : String) : arrange (.str s) = .str s
  int (n : Int) : arrange (.int n) = .int n
  arr (items : List Json) : arrange (.arr items) = .arr (items.map arrange)
  obj (fields : List (String × Json)) : ∃ arranged, arrange (.obj fields) = .obj arranged ∧
    ∀ name, field? arranged name = (field? fields name).map arrange
  single (name : String) (value : Json) :
    arrange (.obj [(name, value)]) = .obj [(name, arrange value)]

/-- Leaving all fields where they are is an arrangement. -/
theorem arranges_id : Arranges id where
  str _ := rfl
  int _ := rfl
  arr items := by rw [List.map_id]; rfl
  obj fields := ⟨fields, rfl, fun name => by rw [Option.map_id]; rfl⟩
  single _ _ := rfl

/-- **Sorting all fields is an arrangement.** -/
theorem arranges_sorted : Arranges sorted where
  str _ := rfl
  int _ := rfl
  arr items := by rw [sorted, sortedItems_eq_map]
  obj fields := ⟨sortedFields fields, by rw [sorted], field?_sortedFields fields⟩
  single name value := by rw [sorted, sortedFields, sortedFields, NameMap.insertEntry]

/-! ### Reading what is arranged -/

namespace Arranges

variable {arrange : Json → Json} {α : Type} {write : α → Json} {read : Json → Option α}
  {items : List α}

/-- **A list read back**, if each of its items is. -/
theorem list (arranges : Arranges arrange)
    (each : ∀ item ∈ items, read (arrange (write item)) = some item) :
    items? read (arrange (.arr (items.map write))) = some items := by
  rw [arranges.arr, List.map_map, items?]
  exact mapM_map_of_forall_mem each

/-- A list that is left out when it is empty, read back from the field that it was written to. -/
theorem orElse_list (arranges : Arranges arrange) {fields : List (String × Json)} {name : String}
    (each : ∀ item ∈ items, read (arrange (write item)) = some item)
    (found : field? fields name =
      (if items.isEmpty then none else some (.arr (items.map write))).map arrange) :
    orElse fields name (items? read) [] = some items := by
  rw [orElse, found]
  cases items with
  | nil => rfl
  | cons first rest => exact arranges.list each

/-- A tag with nothing behind it. -/
theorem tagged_alone (arranges : Arranges arrange) {tagKey valueKey : String} (tag : String)
    (differ : tagKey ≠ valueKey) :
    tagged? tagKey valueKey (arrange (.obj [(tagKey, .str tag)])) = some (tag, none) := by
  simp [arranges.single, arranges.str, tagged?, caseName?, differ]

/-- A tag with a value behind it. -/
theorem tagged_value (arranges : Arranges arrange) {tagKey valueKey : String} (tag : String)
    (value : Json) (differ : tagKey ≠ valueKey) :
    tagged? tagKey valueKey (arrange (.obj [(tagKey, .str tag), (valueKey, value)])) =
      some (tag, some (arrange value)) := by
  obtain ⟨fields, arranged, found⟩ := arranges.obj [(tagKey, .str tag), (valueKey, value)]
  simp [arranged, tagged?, found, arranges.str, caseName?, differ]

end Arranges

end DocPipeline.Json
