/-!
# Finite maps keyed by names

A `NameMap` holds at most one value for each name. Its entries are listed by strictly increasing
name, so two maps with the same entries are equal, and listing a map always gives the same order.
Variables, slots, stage attributes and registries are such maps.

## Main definitions

* `NameMap.get?`: the value under a name.
* `NameMap.insert`, `NameMap.erase`: writing and removing one name.
* `NameMap.ofList`: a map from pairs, the last pair of a name winning.
* `NameMap.overlay`: one map laid over another.

## Main results

* `NameMap.ext`: maps with the same entries are equal.
-/

namespace DocPipeline

/-- A finite map from names to values, listed by strictly increasing name. -/
structure NameMap (α : Type) where
  /-- The entries, one for each name. -/
  entries : List (String × α)
  /-- Names increase strictly along the entries. -/
  sorted : entries.Pairwise (fun a b => a.1 < b.1)

namespace NameMap

variable {α β : Type}

/-- Maps with the same entries are equal. -/
@[ext] theorem ext {m n : NameMap α} (h : m.entries = n.entries) : m = n := by
  cases m; cases n; cases h; rfl

instance [DecidableEq α] : DecidableEq (NameMap α) := fun m n =>
  if h : m.entries = n.entries then isTrue (ext h)
  else isFalse fun e => h (e ▸ rfl)

/-! ### Entries in order -/

/-- The value that a list of entries gives to a name: the first one listed. -/
def lookup (name : String) : List (String × α) → Option α
  | [] => none
  | (key, value) :: rest => if key = name then some value else lookup name rest

/-- Writes one name into a list of entries, at the place its name asks for. -/
def insertEntry (name : String) (value : α) : List (String × α) → List (String × α)
  | [] => [(name, value)]
  | (key, old) :: rest =>
    if name < key then (name, value) :: (key, old) :: rest
    else if key = name then (name, value) :: rest
    else (key, old) :: insertEntry name value rest

/-- Every entry after an insertion is the one written or an entry from before. -/
theorem mem_insertEntry {name : String} {value : α} {entries : List (String × α)}
    {e : String × α} (h : e ∈ insertEntry name value entries) :
    e = (name, value) ∨ e ∈ entries := by
  induction entries with
  | nil => simpa [insertEntry] using h
  | cons head rest ih =>
    obtain ⟨key, old⟩ := head
    simp only [insertEntry] at h
    split at h
    · simpa using h
    · split at h
      · rcases List.mem_cons.mp h with h | h
        · exact .inl h
        · exact .inr (List.mem_cons_of_mem _ h)
      · rcases List.mem_cons.mp h with h | h
        · exact .inr (h ▸ List.mem_cons_self)
        · exact (ih h).imp id (List.mem_cons_of_mem _)

/-- Inserting keeps the names increasing. -/
theorem pairwise_insertEntry {name : String} {value : α} {entries : List (String × α)}
    (h : entries.Pairwise (fun a b => a.1 < b.1)) :
    (insertEntry name value entries).Pairwise (fun a b => a.1 < b.1) := by
  induction entries with
  | nil => simp [insertEntry]
  | cons head rest ih =>
    obtain ⟨key, old⟩ := head
    obtain ⟨first, tail⟩ := List.pairwise_cons.mp h
    simp only [insertEntry]
    split
    · rename_i lt
      refine List.pairwise_cons.mpr ⟨fun e he => ?_, h⟩
      rcases List.mem_cons.mp he with rfl | he
      · exact lt
      · exact String.lt_trans lt (first e he)
    · rename_i notLt
      split
      · rename_i same
        exact List.pairwise_cons.mpr ⟨fun e he => same ▸ first e he, tail⟩
      · rename_i differ
        refine List.pairwise_cons.mpr ⟨fun e he => ?_, ih tail⟩
        rcases mem_insertEntry he with rfl | he
        · refine Decidable.byContradiction fun notGt => differ ?_
          exact String.le_antisymm (String.not_lt.mp notLt) (String.not_lt.mp notGt)
        · exact first e he

/-! ### Maps -/

/-- The map without entries. -/
def empty : NameMap α := ⟨[], List.Pairwise.nil⟩

instance : EmptyCollection (NameMap α) := ⟨empty⟩

instance : Inhabited (NameMap α) := ⟨empty⟩

/-- The value under a name, if there is one. -/
def get? (m : NameMap α) (name : String) : Option α := lookup name m.entries

/-- Whether a name has a value. -/
def contains (m : NameMap α) (name : String) : Bool := (m.get? name).isSome

/-- The names that have a value, in increasing order. -/
def names (m : NameMap α) : List String := m.entries.map (·.1)

/-- The number of names that have a value. -/
def size (m : NameMap α) : Nat := m.entries.length

/-- Whether no name has a value. -/
def isEmpty (m : NameMap α) : Bool := m.entries.isEmpty

/-- Gives a name a value, in place of the one it had. -/
def insert (m : NameMap α) (name : String) (value : α) : NameMap α :=
  ⟨insertEntry name value m.entries, pairwise_insertEntry m.sorted⟩

/-- Takes the value of a name away. -/
def erase (m : NameMap α) (name : String) : NameMap α :=
  ⟨m.entries.filter (fun e => e.1 ≠ name), m.sorted.filter _⟩

/-- The entries of `top` written over those of `base`. -/
def overlay (base top : NameMap α) : NameMap α :=
  top.entries.foldl (fun m e => m.insert e.1 e.2) base

/-- The map of a list of pairs; of two pairs with one name the later counts. -/
def ofList (pairs : List (String × α)) : NameMap α :=
  pairs.foldl (fun m e => m.insert e.1 e.2) empty

/-- The map with one entry. -/
def single (name : String) (value : α) : NameMap α := empty.insert name value

end NameMap

end DocPipeline
