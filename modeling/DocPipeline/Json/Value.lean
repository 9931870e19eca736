import DocPipeline.NameMap
import DocPipeline.Number.Binary64

/-!
# JSON values

The dynamic values that configurations, payloads and events are written in, and the small readers
from which the readers of domain types are put together. A reader answers `none` for a value that
does not have the shape it asks for.

Whole numbers and numbers with a fraction or an exponent are kept apart, since a counter accepts
the former only.
-/

namespace DocPipeline

/-- A JSON value. -/
inductive Json where
  | null
  | bool (value : Bool)
  | int (value : Int)
  | real (value : Binary64)
  | str (value : String)
  | arr (items : List Json)
  | obj (fields : List (String × Json))
deriving Inhabited

namespace Json

/-! ### Equality -/

mutual

/-- Equality of values is decided member by member. -/
def decEq : (a b : Json) → Decidable (a = b)
  | .null, b => match b with
    | .null => isTrue rfl
    | .bool _ | .int _ | .real _ | .str _ | .arr _ | .obj _ => isFalse nofun
  | .bool x, b => match b with
    | .bool y => decidable_of_iff (x = y) (by simp)
    | .null | .int _ | .real _ | .str _ | .arr _ | .obj _ => isFalse nofun
  | .int x, b => match b with
    | .int y => decidable_of_iff (x = y) (by simp)
    | .null | .bool _ | .real _ | .str _ | .arr _ | .obj _ => isFalse nofun
  | .real x, b => match b with
    | .real y => decidable_of_iff (x = y) (by simp)
    | .null | .bool _ | .int _ | .str _ | .arr _ | .obj _ => isFalse nofun
  | .str x, b => match b with
    | .str y => decidable_of_iff (x = y) (by simp)
    | .null | .bool _ | .int _ | .real _ | .arr _ | .obj _ => isFalse nofun
  | .arr xs, b => match b with
    | .arr ys => have := decEqItems xs ys; decidable_of_iff (xs = ys) (by simp)
    | .null | .bool _ | .int _ | .real _ | .str _ | .obj _ => isFalse nofun
  | .obj xs, b => match b with
    | .obj ys => have := decEqFields xs ys; decidable_of_iff (xs = ys) (by simp)
    | .null | .bool _ | .int _ | .real _ | .str _ | .arr _ => isFalse nofun

/-- Equality of lists of values. -/
def decEqItems : (xs ys : List Json) → Decidable (xs = ys)
  | [], [] => isTrue rfl
  | [], _ :: _ => isFalse nofun
  | _ :: _, [] => isFalse nofun
  | x :: xs, y :: ys =>
    have := decEq x y
    have := decEqItems xs ys
    decidable_of_iff (x = y ∧ xs = ys) (by simp)

/-- Equality of lists of fields. -/
def decEqFields : (xs ys : List (String × Json)) → Decidable (xs = ys)
  | [], [] => isTrue rfl
  | [], _ :: _ => isFalse nofun
  | _ :: _, [] => isFalse nofun
  | (j, x) :: xs, (k, y) :: ys =>
    have := decEq x y
    have := decEqFields xs ys
    decidable_of_iff (j = k ∧ x = y ∧ xs = ys) (by simp [and_assoc])

end

instance : DecidableEq Json := decEq

/-! ### Readers -/

/-- The value of a field of an object. -/
def field? (fields : List (String × Json)) (name : String) : Option Json :=
  NameMap.lookup name fields

/-- A text. -/
def text? : Json → Option String
  | .str s => some s
  | _ => none

/-- A truth value. -/
def truth? : Json → Option Bool
  | .bool b => some b
  | _ => none

/-- An unsigned number of 64 bits. -/
def word? : Json → Option UInt64
  | .int n => if 0 ≤ n ∧ n.toNat < UInt64.size then some (UInt64.ofNat n.toNat) else none
  | _ => none

/-- An unsigned number of 8 bits. -/
def byte? : Json → Option UInt8
  | .int n => if 0 ≤ n ∧ n.toNat < UInt8.size then some (UInt8.ofNat n.toNat) else none
  | _ => none

/-- A position or a size: a natural number that fits 64 bits. -/
def size? : Json → Option Nat
  | .int n => if 0 ≤ n ∧ n.toNat < UInt64.size then some n.toNat else none
  | _ => none

/-- A number, whole or not. -/
def real? : Json → Option Binary64
  | .int n => some (.ofInt n)
  | .real x => some x
  | _ => none

/-- The name of one case among several: a text, or an object with that name as its only key and
null behind it. -/
def caseName? : Json → Option String
  | .str s => some s
  | .obj [(s, .null)] => some s
  | _ => none

/-- One of a list of values, given by its name. -/
def choice? {α : Type} (values : List α) (name : α → String) (json : Json) : Option α :=
  (caseName? json).bind fun s => values.find? (name · = s)

/-- The fields of an object. -/
def fields? : Json → Option (List (String × Json))
  | .obj fields => some fields
  | _ => none

/-- The fields of a record: an object, or an array that gives the fields by their positions. An
array gives `atLeast` fields or more. -/
def record? (names : List String) (atLeast : Nat) : Json → Option (List (String × Json))
  | .obj fields => some fields
  | .arr items =>
    if atLeast ≤ items.length ∧ items.length ≤ names.length then some (names.zip items) else none
  | _ => none

/-- A value that comes with a tag: an object with the name of a case under one key and, unless
there is none, the value under another, or an array of the two. -/
def tagged? (tagKey valueKey : String) : Json → Option (String × Option Json)
  | .obj fields => do
      let tag ← field? fields tagKey
      let tag ← caseName? tag
      some (tag, field? fields valueKey)
  | .arr [tag, value] => (caseName? tag).map (·, some value)
  | _ => none

/-- A list, each item read the same way. -/
def items? {α : Type} (read : Json → Option α) : Json → Option (List α)
  | .arr items => items.mapM read
  | _ => none

/-- An object as a map, each value read the same way; of two fields with one name the later
counts. -/
def map? {α : Type} (read : Json → Option α) : Json → Option (NameMap α)
  | .obj fields => do
      let pairs ← fields.mapM fun (name, value) => (read value).map (name, ·)
      some (NameMap.ofList pairs)
  | _ => none

/-- A field that has to be there. -/
def required {α : Type} (fields : List (String × Json)) (name : String)
    (read : Json → Option α) : Option α :=
  (field? fields name).bind read

/-- A field that may be left out, for the given value. -/
def orElse {α : Type} (fields : List (String × Json)) (name : String) (read : Json → Option α)
    (absent : α) : Option α :=
  match field? fields name with
  | none => some absent
  | some value => read value

/-- A field that may be left out or null. -/
def optional {α : Type} (fields : List (String × Json)) (name : String)
    (read : Json → Option α) : Option (Option α) :=
  match field? fields name with
  | none => some none
  | some .null => some none
  | some value => (read value).map some

/-! ### Writers -/

/-- A value or null. -/
def nullable {α : Type} (write : α → Json) : Option α → Json
  | none => .null
  | some value => write value

/-- A field that is left out when it has no value. -/
def fieldIfSome {α : Type} (name : String) (write : α → Json) : Option α → List (String × Json)
  | none => []
  | some value => [(name, write value)]

/-- A map as an object, its fields in order of name. -/
def ofMap {α : Type} (write : α → Json) (m : NameMap α) : Json :=
  .obj (m.entries.map fun (name, value) => (name, write value))

end Json

end DocPipeline
