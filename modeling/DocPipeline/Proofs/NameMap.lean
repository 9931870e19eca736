import DocPipeline.NameMap
import Mathlib.Data.List.Nodup

/-!
# Laws of finite maps

What looking a name up gives after one name was written, and which names there are then.

## Main results

* `NameMap.get?_insert`: a map after one name was written.
* `NameMap.names_insert`: writing a name that is there adds no name.
* `NameMap.mem_names_ofList`: the names of a list of pairs.
* `NameMap.ofList_entries`: a map is made of its entries.
* `NameMap.get?_overlay`: one map laid over another.
-/

namespace DocPipeline.NameMap

variable {α : Type} {m : NameMap α} {name key : String} {value : α}

/-! ### Looking up -/

/-- A list of entries gives a value to the names that it lists. -/
theorem isSome_lookup_iff {entries : List (String × α)} :
    (lookup name entries).isSome = true ↔ name ∈ entries.map Prod.fst := by
  induction entries with
  | nil => simp [lookup]
  | cons head rest ih =>
      obtain ⟨key, old⟩ := head
      rw [lookup, List.map_cons, List.mem_cons]
      by_cases same : key = name
      · rw [if_pos same]
        exact iff_of_true rfl (.inl same.symm)
      · rw [if_neg same, ih]
        exact (or_iff_right (Ne.symm same)).symm

/-- A value that is found is listed under its name. -/
theorem mem_of_lookup {entries : List (String × α)} (found : lookup name entries = some value) :
    (name, value) ∈ entries := by
  induction entries with
  | nil => cases found
  | cons head rest ih =>
      obtain ⟨key, old⟩ := head
      rw [lookup] at found
      split at found
      · next same =>
          obtain rfl := Option.some.inj found
          subst same
          exact List.mem_cons_self
      · exact List.mem_cons_of_mem _ (ih found)

theorem mem_entries_of_get? (found : m.get? name = some value) : (name, value) ∈ m.entries :=
  mem_of_lookup found

/-- The names of a map are those that have a value. -/
theorem mem_names_iff : name ∈ m.names ↔ m.contains name = true := by
  rw [contains, get?, isSome_lookup_iff, names]

/-- A name with a value is among the names. -/
theorem mem_names_of_get? (found : m.get? name = some value) : name ∈ m.names := by
  rw [mem_names_iff, contains, found]
  rfl

/-- A name among the names has a value. -/
theorem exists_get?_of_mem_names (mem : name ∈ m.names) : ∃ value, m.get? name = some value := by
  rw [mem_names_iff] at mem
  exact Option.isSome_iff_exists.mp mem

/-- Names are listed in order. -/
theorem sorted_names (m : NameMap α) : m.names.Pairwise (· < ·) := List.pairwise_map.mpr m.sorted

/-- No name is listed twice. -/
theorem nodup_names (m : NameMap α) : m.names.Nodup := m.sorted_names.imp String.ne_of_lt

theorem length_names (m : NameMap α) : m.names.length = m.size := List.length_map _

theorem isEmpty_iff : m.isEmpty = true ↔ m = empty := by
  rw [isEmpty, List.isEmpty_iff]
  exact ⟨fun none => ext none, fun same => same ▸ rfl⟩

/-! ### After one name was written -/

theorem lookup_insertEntry (entries : List (String × α)) :
    lookup key (insertEntry name value entries) =
      if key = name then some value else lookup key entries := by
  induction entries with
  | nil => simp [insertEntry, lookup, eq_comm]
  | cons head rest ih =>
      obtain ⟨other, old⟩ := head
      rw [insertEntry]
      split
      · simp [lookup, eq_comm]
      split
      · next same =>
          subst same
          by_cases here : other = key
          · simp [lookup, here]
          · simp [lookup, here, Ne.symm here]
      · next differ =>
          rw [lookup, lookup, ih]
          by_cases here : other = key
          · subst here
            simp [differ]
          · simp [here]

/-- **A map after one name was written**: the name has its new value, and the others have theirs. -/
theorem get?_insert (m : NameMap α) (name : String) (value : α) (key : String) :
    (m.insert name value).get? key = if key = name then some value else m.get? key :=
  lookup_insertEntry m.entries

theorem get?_insert_self (m : NameMap α) (name : String) (value : α) :
    (m.insert name value).get? name = some value := by
  rw [get?_insert, if_pos rfl]

theorem get?_insert_of_ne (m : NameMap α) (value : α) (differ : key ≠ name) :
    (m.insert name value).get? key = m.get? key := by
  rw [get?_insert, if_neg differ]

/-- The names after one name was written. -/
theorem mem_names_insert : key ∈ (m.insert name value).names ↔ key = name ∨ key ∈ m.names := by
  rw [mem_names_iff, mem_names_iff, contains, contains, get?_insert]
  by_cases same : key = name
  · simp [same]
  · simp [same]

theorem map_insertEntry {entries : List (String × α)}
    (sorted : entries.Pairwise (fun a b => a.1 < b.1)) (mem : name ∈ entries.map Prod.fst) :
    (insertEntry name value entries).map Prod.fst = entries.map Prod.fst := by
  induction entries with
  | nil => simp at mem
  | cons head rest ih =>
      obtain ⟨other, old⟩ := head
      obtain ⟨first, sorted⟩ := List.pairwise_cons.mp sorted
      rw [List.map_cons, List.mem_cons] at mem
      rw [insertEntry]
      split
      · next before =>
          rcases mem with rfl | mem
          · exact absurd before (String.lt_irrefl _)
          · obtain ⟨entry, listed, rfl⟩ := List.mem_map.mp mem
            exact absurd (String.lt_trans before (first entry listed)) (String.lt_irrefl _)
      split
      · next same => simp [same]
      · next differ =>
          rcases mem with rfl | mem
          · exact absurd rfl differ
          · simp [ih sorted mem]

/-- **Writing a name that is there adds no name.** -/
theorem names_insert (mem : name ∈ m.names) (value : α) : (m.insert name value).names = m.names :=
  map_insertEntry m.sorted mem

theorem insertEntry_of_lookup {entries : List (String × α)}
    (sorted : entries.Pairwise (fun a b => a.1 < b.1))
    (found : lookup name entries = some value) : insertEntry name value entries = entries := by
  induction entries with
  | nil => cases found
  | cons head rest ih =>
      obtain ⟨other, old⟩ := head
      obtain ⟨first, sorted⟩ := List.pairwise_cons.mp sorted
      rw [lookup] at found
      rw [insertEntry]
      by_cases same : other = name
      · rw [if_pos same] at found
        cases found
        subst same
        simp
      · rw [if_neg same] at found
        have listed : name ∈ rest.map Prod.fst := isSome_lookup_iff.mp (by rw [found]; rfl)
        obtain ⟨entry, mem, rfl⟩ := List.mem_map.mp listed
        rw [if_neg fun before => String.lt_irrefl _ (String.lt_trans before (first entry mem)),
          if_neg same, ih sorted found]

/-- Writing the value that a name has changes nothing. -/
theorem insert_of_get? (found : m.get? name = some value) : m.insert name value = m :=
  ext (insertEntry_of_lookup m.sorted found)

/-! ### After one name was removed -/

theorem lookup_filter_ne (entries : List (String × α)) :
    lookup key (entries.filter (·.1 ≠ name)) =
      if key = name then none else lookup key entries := by
  induction entries with
  | nil => simp [lookup]
  | cons head rest ih =>
      obtain ⟨first, old⟩ := head
      by_cases removed : first = name
      · rw [List.filter_cons_of_neg (by simpa using removed), ih, lookup]
        by_cases same : key = name
        · rw [if_pos same, if_pos same]
        · rw [if_neg same, if_neg same, if_neg fun here => same (here.symm.trans removed)]
      · rw [List.filter_cons_of_pos (by simpa using removed), lookup, lookup, ih]
        by_cases here : first = key
        · rw [if_pos here, if_pos here, if_neg fun same => removed (here.trans same)]
        · rw [if_neg here, if_neg here]

/-- A name that was removed has no value, and the others keep theirs. -/
theorem get?_erase (m : NameMap α) (name key : String) :
    (m.erase name).get? key = if key = name then none else m.get? key :=
  lookup_filter_ne m.entries

/-! ### Maps of lists -/

theorem mem_names_foldl_insert (pairs : List (String × α)) (m : NameMap α) :
    name ∈ (pairs.foldl (fun m e => m.insert e.1 e.2) m).names ↔
      name ∈ m.names ∨ name ∈ pairs.map Prod.fst := by
  induction pairs generalizing m with
  | nil => simp
  | cons pair pairs ih =>
      rw [List.foldl_cons, ih, mem_names_insert, List.map_cons, List.mem_cons, or_assoc,
        or_left_comm]

/-- The names of a list of pairs. -/
theorem mem_names_ofList {pairs : List (String × α)} :
    name ∈ (ofList pairs).names ↔ name ∈ pairs.map Prod.fst := by
  have nothing : name ∉ (empty : NameMap α).names := List.not_mem_nil
  rw [ofList, mem_names_foldl_insert, or_iff_right nothing]

theorem insertEntry_of_forall_lt {entries : List (String × α)}
    (below : ∀ entry ∈ entries, entry.1 < name) :
    insertEntry name value entries = entries ++ [(name, value)] := by
  induction entries with
  | nil => rfl
  | cons head rest ih =>
      obtain ⟨lower, later⟩ := List.forall_mem_cons.mp below
      rw [insertEntry, if_neg (String.lt_asymm lower), if_neg (String.ne_of_lt lower), ih later,
        List.cons_append]

/-- Entries in order are written one behind the other. -/
theorem entries_foldl_insert {rest : List (String × α)} {m : NameMap α}
    (sorted : (m.entries ++ rest).Pairwise (fun a b => a.1 < b.1)) :
    (rest.foldl (fun m e => m.insert e.1 e.2) m).entries = m.entries ++ rest := by
  induction rest generalizing m with
  | nil => exact (List.append_nil m.entries).symm
  | cons entry rest ih =>
      have grown : (m.insert entry.1 entry.2).entries = m.entries ++ [entry] :=
        insertEntry_of_forall_lt fun earlier mem =>
          (List.pairwise_append.mp sorted).2.2 earlier mem entry List.mem_cons_self
      rw [List.append_cons, ← grown] at sorted ⊢
      exact ih sorted

/-- **A map is made of its entries.** -/
theorem ofList_entries (m : NameMap α) : ofList m.entries = m :=
  ext (entries_foldl_insert (m := empty) m.sorted)

/-! ### One map over another -/

/-- Writing entries of different names one after the other: each name has its entry, if there is
one, and otherwise what it had. -/
theorem get?_foldl_insert {entries : List (String × α)}
    (sorted : entries.Pairwise (fun a b => a.1 < b.1)) (m : NameMap α) (name : String) :
    (entries.foldl (fun m e => m.insert e.1 e.2) m).get? name =
      (lookup name entries).or (m.get? name) := by
  induction entries generalizing m with
  | nil => rfl
  | cons head rest ih =>
      obtain ⟨key, value⟩ := head
      obtain ⟨first, sorted⟩ := List.pairwise_cons.mp sorted
      rw [List.foldl_cons, ih sorted, get?_insert, lookup]
      by_cases same : key = name
      · subst same
        have once : lookup key rest = none := by
          rw [← Option.not_isSome_iff_eq_none, isSome_lookup_iff, List.mem_map]
          rintro ⟨entry, mem, again⟩
          exact absurd (first entry mem) (by rw [again]; exact String.lt_irrefl _)
        simp [once]
      · simp [same, Ne.symm same]

/-- **One map over another**: the one on top counts where it has a value. -/
theorem get?_overlay (base top : NameMap α) (name : String) :
    (base.overlay top).get? name = (top.get? name).or (base.get? name) :=
  get?_foldl_insert top.sorted base name

/-- The names of one map over another are those of both. -/
theorem mem_names_overlay {base top : NameMap α} :
    name ∈ (base.overlay top).names ↔ name ∈ base.names ∨ name ∈ top.names :=
  mem_names_foldl_insert top.entries base

end DocPipeline.NameMap
