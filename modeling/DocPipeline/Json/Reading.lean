import DocPipeline.Json.Draft
import DocPipeline.Json.Value

/-!
# Reading JSON texts

Reading a text as a value, in the light of what its reader is going to look at. A `Shape` says
which fields those are. Whatever a shape does not mention is left out and only has to be well
formed; what it mentions has to be a value in the full sense: its strings spell texts, its numbers
are in range, it nests to at most `nestingLimit` levels, and a record names no field twice.

## Main definitions

* `Json.Shape`: the part of a value that its reader looks at.
* `Json.readAs?`: the value of a text as far as a shape goes.
* `Json.ofText?`: the whole value of a text.
-/

namespace DocPipeline.Json

/-! ### Numbers -/

/-- The value of a number: whole when it is written without point and exponent and fits 64 bits,
signed or unsigned. Zero with a minus sign is not whole. -/
def Numeral.value? (n : Numeral) : Option Json :=
  if n.whole && !n.negative then some (.int n.significand)
  else if n.whole && decide (0 < n.significand) && decide (2 * n.significand ≤ UInt64.size) then
    some (.int (-(n.significand : Int)))
  else n.real?.map .real

/-! ### Shapes -/

/-- What a reader looks at in a value. -/
inductive Shape where
  /-- All of it; of two fields with one name the later counts. -/
  | everything
  /-- All of it, and the fields of an object one after the other as they are written, also those
  with one name. -/
  | verbatim
  /-- The items of an array, each in one shape. -/
  | list (item : Shape)
  /-- The named fields of an object, or of an array by their positions, each in its own shape. -/
  | record (fields : List (String × Shape))

/-- How many containers may lie within one another in what is read. -/
def nestingLimit : Nat := 127

mutual

/-- The whole value of a draft within a number of levels; of two fields with one name the later
counts. -/
def Draft.value? : (levels : Nat) → Draft → Option Json
  | _, .null => some .null
  | _, .bool value => some (.bool value)
  | _, .number numeral => numeral.value?
  | _, .string text => text.map .str
  | levels, .array items => match levels with
    | 0 => none
    | levels + 1 => (Draft.items? levels items).map .arr
  | levels, .object fields => match levels with
    | 0 => none
    | levels + 1 => (Draft.fields? levels fields).map fun pairs =>
        .obj (NameMap.ofList pairs).entries
termination_by structural _ draft => draft

/-- The values of the items of an array. -/
def Draft.items? : (levels : Nat) → List Draft → Option (List Json)
  | _, [] => some []
  | levels, item :: items =>
    match Draft.value? levels item with
    | none => none
    | some value => (Draft.items? levels items).map (value :: ·)
termination_by structural _ items => items

/-- The names and values of the fields of an object. -/
def Draft.fields? : (levels : Nat) → List (Option String × Draft) → Option (List (String × Json))
  | _, [] => some []
  | levels, (name, field) :: fields =>
    match name, Draft.value? levels field with
    | some name, some value => (Draft.fields? levels fields).map ((name, value) :: ·)
    | _, _ => none
termination_by structural _ fields => fields

end

mutual

/-- The value of a draft as far as a shape goes. A list or a record refuses drafts of other
kinds. -/
def Draft.readAs? : (levels : Nat) → Shape → Draft → Option Json
  | levels, .everything, draft => draft.value? levels
  | levels, .verbatim, draft => match levels, draft with
    | levels + 1, .object fields => (Draft.fields? levels fields).map .obj
    | levels, draft => draft.value? levels
  | levels, .list item, draft => match levels, draft with
    | levels + 1, .array items => (Draft.readItems? levels item items).map .arr
    | _, _ => none
  | levels, .record shapes, draft => match levels, draft with
    | levels + 1, .object fields => (Draft.readFields? levels shapes [] fields).map .obj
    | levels + 1, .array items => (Draft.readPositions? levels shapes items).map .arr
    | _, _ => none
termination_by structural _ _ draft => draft

/-- The items of an array as far as the shape of one item goes. -/
def Draft.readItems? : (levels : Nat) → Shape → List Draft → Option (List Json)
  | _, _, [] => some []
  | levels, shape, item :: items =>
    match Draft.readAs? levels shape item with
    | none => none
    | some value => (Draft.readItems? levels shape items).map (value :: ·)
termination_by structural _ _ items => items

/-- The fields of a record by their positions, of which there are no more than it mentions. -/
def Draft.readPositions? : (levels : Nat) → List (String × Shape) → List Draft →
    Option (List Json)
  | _, _, [] => some []
  | _, [], _ :: _ => none
  | levels, (_, shape) :: shapes, item :: items =>
    match Draft.readAs? levels shape item with
    | none => none
    | some value => (Draft.readPositions? levels shapes items).map (value :: ·)
termination_by structural _ _ items => items

/-- The fields of an object that a record mentions, after those already `seen`. A name has to
spell a text even when the record does not mention it, and one that it mentions comes only
once. -/
def Draft.readFields? : (levels : Nat) → List (String × Shape) → (seen : List String) →
    List (Option String × Draft) → Option (List (String × Json))
  | _, _, _, [] => some []
  | levels, shapes, seen, (name, field) :: fields =>
    match name with
    | none => none
    | some name =>
      match NameMap.lookup name shapes with
      | none => Draft.readFields? levels shapes seen fields
      | some shape =>
        if seen.contains name then none
        else
          match Draft.readAs? levels shape field with
          | none => none
          | some value =>
            (Draft.readFields? levels shapes (name :: seen) fields).map ((name, value) :: ·)
termination_by structural _ _ _ fields => fields

end

/-- The value of a text as far as a shape goes, `none` if the text is no JSON or does not have
the shape. -/
def readAs? (shape : Shape) (text : String) : Option Json := do
  let tokens ← Token.scan text.toList
  let draft ← Draft.ofTokens? tokens
  draft.readAs? nestingLimit shape

/-- The whole value of a text. -/
def ofText? (text : String) : Option Json := readAs? .everything text

end DocPipeline.Json
