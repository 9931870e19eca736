import DocPipeline.Document.Element

/-!
# Addresses

Where addresses lead, and their order. An element comes before the elements within it, and of two
elements neither of which is within the other, the one in the earlier child comes first. That is the
lexicographic order of addresses.

## Main definitions

* `Element.All`: something holds of all elements of a document.
* `Address.Contains`: one element within another.
* `Address.Apart`: two addresses part, the first into an earlier child.
* `Address.Before`: document order.

## Main results

* `Element.at?_append`: an address that goes on from another.
* `Element.induction`: induction on documents.
* `Element.mem_childElements_iff`: the element children.
* `Address.before_iff_lt`: document order is the lexicographic order.
-/

namespace DocPipeline

namespace Element

/-! ### Where addresses lead -/

/-- An address leads on from where its first part leads. -/
theorem at?_append (e : Element) (first second : Address) :
    e.at? (first ++ second) = (e.at? first).bind (·.at? second) := by
  induction first generalizing e with
  | nil => rfl
  | cons i rest ih =>
      rw [List.cons_append, at?, at?]
      cases e.children[i]? with
      | none => rfl
      | some node =>
          cases node with
          | element child => exact ih child
          | text content => rfl

/-- What is at an address of several positions is within a child. -/
theorem at?_cons_eq_some_iff {e f : Element} {i : Nat} {rest : Address} :
    e.at? (i :: rest) = some f ↔
      ∃ child, e.children[i]? = some (.element child) ∧ child.at? rest = some f := by
  rw [at?]
  cases e.children[i]? with
  | none => simp
  | some node => cases node <;> simp

/-- An address of one position leads to an element child. -/
theorem at?_singleton {e child : Element} {i : Nat} :
    e.at? [i] = some child ↔ e.children[i]? = some (.element child) := by
  rw [at?_cons_eq_some_iff]
  constructor
  · rintro ⟨other, present, here⟩
    obtain rfl := Option.some.inj here
    exact present
  · exact fun present => ⟨child, present, rfl⟩

/-- The element children of a list of nodes are where the list holds elements. -/
theorem mem_childElementsFrom_iff {start i : Nat} {nodes : List Node} {child : Element} :
    (i, child) ∈ childElementsFrom start nodes ↔
      start ≤ i ∧ nodes[i - start]? = some (.element child) := by
  induction nodes generalizing start with
  | nil => simp [childElementsFrom]
  | cons node nodes ih =>
      have further (after : start < i) :
          (node :: nodes)[i - start]? = nodes[i - (start + 1)]? := by
        rw [show i - start = i - (start + 1) + 1 by omega, List.getElem?_cons_succ]
      have later : (i, child) ∈ childElementsFrom (start + 1) nodes ↔
          start < i ∧ (node :: nodes)[i - start]? = some (.element child) :=
        ih.trans (and_congr_right fun after => by rw [further after])
      obtain same | differ := Decidable.em (i = start)
      · subst same
        cases node with
        | text content => simp [childElementsFrom, later]
        | element e => simp [childElementsFrom, later, eq_comm]
      · have : start ≤ i ↔ start < i := by omega
        cases node with
        | text content => rw [childElementsFrom, later, this]
        | element e => simp [childElementsFrom, later, this, differ]

/-- **The element children** are what addresses of one position lead to. -/
theorem mem_childElements_iff {e child : Element} {i : Nat} :
    (i, child) ∈ e.childElements ↔ e.at? [i] = some child := by
  rw [childElements, mem_childElementsFrom_iff, at?_singleton]
  simp

/-- Induction on documents: what holds of an element if it holds of its element children. -/
theorem induction {holds : Element → Prop}
    (step : ∀ e : Element, (∀ child, .element child ∈ e.children → holds child) → holds e)
    (e : Element) : holds e :=
  step e fun child _ => induction step child
termination_by sizeOf e
decreasing_by
  have inside := List.sizeOf_lt_of_mem ‹Node.element child ∈ e.children›
  cases e
  simp at inside ⊢
  omega

/-- Something holds of an element and of all elements within it. -/
def All (holds : Element → Prop) (e : Element) : Prop :=
  ∀ address f, e.at? address = some f → holds f

/-- **All elements of a document** are its root and those of its children. -/
theorem all_iff {holds : Element → Prop} {e : Element} :
    e.All holds ↔ holds e ∧ ∀ child, .element child ∈ e.children → child.All holds := by
  constructor
  · refine fun all => ⟨all [] e rfl, fun child mem address f found => ?_⟩
    obtain ⟨i, present⟩ := List.mem_iff_getElem?.mp mem
    exact all (i :: address) f (at?_cons_eq_some_iff.mpr ⟨child, present, found⟩)
  · rintro ⟨own, below⟩ (_ | ⟨i, address⟩) f found
    · obtain rfl := Option.some.inj found
      exact own
    · obtain ⟨child, present, found⟩ := at?_cons_eq_some_iff.mp found
      exact below child (List.mem_of_getElem? present) address f found

/-- The element children are listed by their positions. -/
theorem pairwise_childElementsFrom (start : Nat) (nodes : List Node) :
    (childElementsFrom start nodes).Pairwise (·.1 < ·.1) := by
  induction nodes generalizing start with
  | nil => exact .nil
  | cons node nodes ih =>
      cases node with
      | text content => exact ih (start + 1)
      | element child =>
          refine .cons (fun later mem => ?_) (ih (start + 1))
          rw [mem_childElementsFrom_iff] at mem
          exact mem.1

end Element

namespace Address

/-! ### Document order -/

/-- The element at the first address contains the one at the second, at any depth. -/
def Contains (a b : Address) : Prop := ∃ way, way ≠ [] ∧ b = a ++ way

/-- Two addresses part: the first goes into an earlier child, the second into a later one. -/
def Apart (a b : Address) : Prop :=
  ∃ common i j first second, i < j ∧ a = common ++ i :: first ∧ b = common ++ j :: second

/-- Document order: what contains an element comes before it, and so does what is in an earlier
child. -/
def Before (a b : Address) : Prop := Contains a b ∨ Apart a b

/-- What contains an element contains all that is within it. -/
theorem Contains.trans {a b c : Address} (first : Contains a b) (second : Contains b c) :
    Contains a c := by
  obtain ⟨way, proper, rfl⟩ := first
  obtain ⟨further, -, rfl⟩ := second
  exact ⟨way ++ further, by simp [proper], List.append_assoc ..⟩

/-- Addresses that part stay apart, however they go on. -/
theorem Apart.append {a b : Address} (apart : Apart a b) (first second : Address) :
    Apart (a ++ first) (b ++ second) := by
  obtain ⟨common, i, j, restA, restB, before, rfl, rfl⟩ := apart
  exact ⟨common, i, j, restA ++ first, restB ++ second, before, by simp, by simp⟩

/-- Different children of one element are apart. -/
theorem apart_of_lt (parent : Address) {i j : Nat} (before : i < j) :
    Apart (parent ++ [i]) (parent ++ [j]) :=
  ⟨parent, i, j, [], [], before, rfl, rfl⟩

theorem not_before_nil (a : Address) : ¬ Before a [] := by
  rintro (⟨way, proper, same⟩ | ⟨common, i, j, first, second, -, -, same⟩)
  · exact proper (List.append_eq_nil_iff.mp same.symm).2
  · cases (List.append_eq_nil_iff.mp same.symm).2

theorem before_cons_cons {i j : Nat} {a b : Address} :
    Before (i :: a) (j :: b) ↔ i < j ∨ i = j ∧ Before a b := by
  constructor
  · rintro (⟨way, proper, same⟩ | ⟨common, k, l, first, second, before, left, right⟩)
    · obtain ⟨rfl, rfl⟩ := List.cons.inj same
      exact .inr ⟨rfl, .inl ⟨way, proper, rfl⟩⟩
    · cases common with
      | nil =>
          obtain ⟨rfl, -⟩ := List.cons.inj left
          obtain ⟨rfl, -⟩ := List.cons.inj right
          exact .inl before
      | cons m common =>
          obtain ⟨rfl, rfl⟩ := List.cons.inj left
          obtain ⟨rfl, rfl⟩ := List.cons.inj right
          exact .inr ⟨rfl, .inr ⟨common, k, l, first, second, before, rfl, rfl⟩⟩
  · rintro (before | ⟨rfl, ⟨way, proper, rfl⟩ | ⟨common, k, l, first, second, before, rfl, rfl⟩⟩)
    · exact .inr ⟨[], i, j, a, b, before, rfl, rfl⟩
    · exact .inl ⟨way, proper, rfl⟩
    · exact .inr ⟨i :: common, k, l, first, second, before, rfl, rfl⟩

/-- **Document order is the lexicographic order of addresses.** -/
theorem before_iff_lt {a b : Address} : Before a b ↔ a < b := by
  induction a generalizing b with
  | nil =>
      cases b with
      | nil => simp [not_before_nil]
      | cons j b => simp [Before, Contains]
  | cons i a ih =>
      cases b with
      | nil => simp [not_before_nil]
      | cons j b => rw [before_cons_cons, ih, List.cons_lt_cons_iff]

/-- Document order is transitive. -/
theorem Before.trans {a b c : Address} (first : Before a b) (second : Before b c) : Before a c :=
  before_iff_lt.mpr (List.lt_trans (before_iff_lt.mp first) (before_iff_lt.mp second))

/-- No element comes before itself. -/
theorem Before.irrefl (a : Address) : ¬ Before a a :=
  fun before => List.lt_irrefl a (before_iff_lt.mp before)

theorem Before.ne {a b : Address} (before : Before a b) : a ≠ b := by
  rintro rfl
  exact Before.irrefl a before

/-- The first of addresses in document order is the one that comes before all others. -/
theorem head?_eq_some_iff {addresses : List Address} (ordered : addresses.Pairwise Before)
    {a : Address} :
    addresses.head? = some a ↔ a ∈ addresses ∧ ∀ b ∈ addresses, b = a ∨ Before a b := by
  cases addresses with
  | nil => simp
  | cons first rest =>
      have others := (List.pairwise_cons.mp ordered).1
      rw [List.head?_cons, Option.some.injEq]
      constructor
      · rintro rfl
        refine ⟨List.mem_cons_self, fun b mem => ?_⟩
        exact (List.mem_cons.mp mem).imp_right (others b)
      · rintro ⟨mem, least⟩
        rcases List.mem_cons.mp mem with rfl | mem
        · rfl
        · rcases least first List.mem_cons_self with same | before
          · exact same
          · exact absurd (before.trans (others a mem)) (Before.irrefl a)

/-- Of two different elements, one comes before the other. -/
theorem eq_of_not_lt {a b : Address} (notBefore : ¬ a < b) (notAfter : ¬ b < a) : a = b :=
  List.le_antisymm (List.not_lt.mp notAfter) (List.not_lt.mp notBefore)

end Address

end DocPipeline
