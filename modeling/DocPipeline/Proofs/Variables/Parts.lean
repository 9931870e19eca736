import DocPipeline.Proofs.Variables.Placeholder

/-!
# Literals and placeholders

A text consists of literals with placeholders between them. Looked for from the left, each behind the
one before it, the placeholders of a text are determined, and so are the literals. What a text refers
to are the names of these placeholders, and what it expands to are the same literals with the values
of known names between them; so nothing but the values of these names matters to an expansion, and
nothing that is put in is looked at again.

## Main definitions

* `Placeholder.Parts`: literals with placeholders between them.
* `Placeholder.Parts.IsLeftmost`: no placeholder starts before the one that comes first.

## Main results

* `Placeholder.Parts.isLeftmost_ofPieces`, `Placeholder.Parts.ofPieces_split`: the pieces of a text
  are its parts, and no others are.
* `Placeholder.references_and_expansion_by_parts`: references and expansions, told by the parts.
-/

namespace DocPipeline.Placeholder

/-! ### Parts -/

/-- A text in parts: a literal, and behind it nothing more, or a placeholder and further parts. -/
inductive Parts where
  | last (literal : List Char)
  | next (literal : List Char) (name : String) (behind : Parts)

/-- No placeholder starts within a literal that has a text behind it. -/
def Bare (literal behind : List Char) : Prop :=
  ∀ front back, literal = front ++ back → back ≠ [] →
    ∀ name rest, IsName name → back ++ behind ≠ placeholder name ++ rest

namespace Parts

/-- The names of the placeholders, in order. -/
def names : Parts → List String
  | .last _ => []
  | .next _ name behind => name :: behind.names

/-- The parts put together, with something in the place of each placeholder. -/
def filled (fill : String → List Char) : Parts → List Char
  | .last literal => literal
  | .next literal name behind => literal ++ (fill name ++ behind.filled fill)

/-- The parts as they are written. -/
def written (parts : Parts) : List Char := parts.filled fun name => placeholder name.toList

/-- Each placeholder is the first one behind the placeholder before it: none starts in a literal. -/
def IsLeftmost : Parts → Prop
  | .last literal => Bare literal []
  | .next literal name behind =>
    Bare literal (placeholder name.toList ++ behind.written) ∧ IsName name.toList ∧
      behind.IsLeftmost

/-- The parts of a text: they are what it is written as, and each placeholder is the first one. -/
def Splits (parts : Parts) (value : String) : Prop :=
  parts.written = value.toList ∧ parts.IsLeftmost

end Parts

/-! ### Literals -/

theorem bare_nil (behind : List Char) : Bare [] behind := by
  intro front back whole proper
  exact absurd (List.append_eq_nil_iff.mp whole.symm).2 proper

/-- A literal is bare if no placeholder starts with its first character and its rest is bare. -/
theorem bare_cons_iff {c : Char} {literal behind : List Char} :
    Bare (c :: literal) behind ↔ leading? (c :: literal ++ behind) = none ∧ Bare literal behind := by
  constructor
  · intro bare
    refine ⟨?_, fun front back whole => bare (c :: front) back (congrArg (c :: ·) whole)⟩
    cases leads : leading? (c :: literal ++ behind) with
    | none => rfl
    | some found =>
        obtain ⟨isName, starts⟩ := eq_of_leading? leads
        exact absurd starts (bare [] _ rfl (List.cons_ne_nil _ _) _ _ isName)
  · rintro ⟨plain, bare⟩ front back whole proper name rest isName starts
    cases front with
    | nil =>
        obtain rfl : c :: literal = back := whole
        rw [starts, leading?_placeholder_append isName] at plain
        cases plain
    | cons d front => exact bare front back (List.cons.inj whole).2 proper name rest isName starts

/-- The characters of a literal are pieces of their own. -/
theorem split_of_bare {literal behind : List Char} (bare : Bare literal behind) :
    split (literal ++ behind) = literal.map .char ++ split behind := by
  induction literal with
  | nil => rfl
  | cons c literal ih =>
      obtain ⟨plain, bare⟩ := bare_cons_iff.mp bare
      rw [List.cons_append] at plain ⊢
      rw [split_cons plain, ih bare]
      rfl

/-! ### From pieces to parts -/

namespace Parts

/-- Parts with one more character in front of the first literal. -/
def push (c : Char) : Parts → Parts
  | .last literal => .last (c :: literal)
  | .next literal name behind => .next (c :: literal) name behind

/-- The parts that pieces make up. -/
def ofPieces : List Piece → Parts
  | [] => .last []
  | .char c :: pieces => (ofPieces pieces).push c
  | .reference name :: pieces => .next [] name (ofPieces pieces)

theorem names_push (c : Char) (parts : Parts) : (parts.push c).names = parts.names := by
  cases parts <;> rfl

theorem filled_push (fill : String → List Char) (c : Char) (parts : Parts) :
    (parts.push c).filled fill = c :: parts.filled fill := by
  cases parts <;> rfl

/-- The names in pieces are those of the parts. -/
theorem names_ofPieces (pieces : List Piece) :
    (ofPieces pieces).names = pieces.filterMap Piece.name? := by
  induction pieces with
  | nil => rfl
  | cons piece pieces ih =>
      cases piece with
      | char c => exact (names_push c _).trans ih
      | reference name => exact congrArg (name :: ·) ih

/-- Parts filled in are the pieces with something in the place of each placeholder. -/
theorem filled_ofPieces (fill : String → List Char) (put : Piece → List Char)
    (char : ∀ c, put (.char c) = [c]) (reference : ∀ name, put (.reference name) = fill name)
    (pieces : List Piece) : (ofPieces pieces).filled fill = pieces.flatMap put := by
  induction pieces with
  | nil => rfl
  | cons piece pieces ih =>
      cases piece with
      | char c => rw [ofPieces, filled_push, ih, List.flatMap_cons, char, List.singleton_append]
      | reference name =>
          rw [ofPieces, filled, ih, List.flatMap_cons, reference, List.nil_append]

/-- The parts of a text are written as the text. -/
theorem written_ofPieces (cs : List Char) : (ofPieces (split cs)).written = cs := by
  have pieces : (ofPieces (split cs)).written = (split cs).flatMap Piece.written :=
    filled_ofPieces _ Piece.written (fun _ => rfl) (fun _ => rfl) _
  rw [pieces, flatMap_written_split]

/-- One more character that starts no placeholder. -/
theorem IsLeftmost.push {c : Char} {parts : Parts} (leftmost : parts.IsLeftmost)
    (plain : leading? (c :: parts.written) = none) : (parts.push c).IsLeftmost := by
  cases parts with
  | last literal =>
      refine bare_cons_iff.mpr ⟨?_, leftmost⟩
      rw [List.append_nil]
      exact plain
  | next literal name behind => exact ⟨bare_cons_iff.mpr ⟨plain, leftmost.1⟩, leftmost.2⟩

/-- **The pieces of a text are its leftmost parts.** -/
theorem isLeftmost_ofPieces (cs : List Char) : (ofPieces (split cs)).IsLeftmost := by
  induction cs using split_induction with
  | nil =>
      rw [split_nil]
      exact bare_nil []
  | reference leads ih =>
      rw [split_of_leading leads]
      refine ⟨bare_nil _, ?_, ih⟩
      rw [String.toList_ofList]
      exact (eq_of_leading? leads).1
  | @char c cs plain ih =>
      rw [split_cons plain]
      refine ih.push ?_
      rw [written_ofPieces, plain]

theorem ofPieces_literal (literal : List Char) : ofPieces (literal.map .char) = .last literal := by
  induction literal with
  | nil => rfl
  | cons c literal ih => rw [List.map_cons, ofPieces, ih, push]

theorem ofPieces_literal_append (literal : List Char) (name : String) (pieces : List Piece) :
    ofPieces (literal.map .char ++ .reference name :: pieces) =
      .next literal name (ofPieces pieces) := by
  induction literal with
  | nil => rfl
  | cons c literal ih => rw [List.map_cons, List.cons_append, ofPieces, ih, push]

/-- **No other parts of a text are leftmost.** -/
theorem ofPieces_split {parts : Parts} (leftmost : parts.IsLeftmost) :
    ofPieces (split parts.written) = parts := by
  induction parts with
  | last literal =>
      have pieces := split_of_bare leftmost
      rw [List.append_nil, split_nil, List.append_nil] at pieces
      rw [written, filled, pieces, ofPieces_literal]
  | next literal name behind ih =>
      -- no piece of the literal is a placeholder, so that the pieces part where the literal ends
      obtain ⟨bare, isName, leftmost⟩ := leftmost
      have front := leading?_placeholder_append isName behind.written
      have pieces := split_of_bare bare
      rw [split_of_leading front, String.ofList_toList] at pieces
      rw [written, filled, ← written, pieces, ofPieces_literal_append, ih leftmost]

/-- What is put in the place of other names does not matter. -/
theorem filled_congr {fill other : String → List Char} {parts : Parts}
    (same : ∀ name ∈ parts.names, fill name = other name) :
    parts.filled fill = parts.filled other := by
  induction parts with
  | last literal => rfl
  | next literal name behind ih =>
      have here := same name List.mem_cons_self
      have later := ih fun name mem => same name (List.mem_cons_of_mem _ mem)
      rw [filled, filled, here, later]

end Parts

/-! ### References and expansions -/

/-- What an expansion has in the place of a placeholder. -/
def filling (vars : Variables) (name : String) : List Char :=
  match vars.get? name with
  | some value => value.toList
  | none => placeholder name.toList

/-- **A text has exactly one split into leftmost parts**, the one that its pieces make up. -/
theorem splits_iff {parts : Parts} {value : String} :
    parts.Splits value ↔ parts = .ofPieces (pieces value) := by
  constructor
  · rintro ⟨whole, leftmost⟩
    rw [pieces_eq_split, ← whole, Parts.ofPieces_split leftmost]
  · rintro rfl
    exact ⟨Parts.written_ofPieces value.toList, Parts.isLeftmost_ofPieces value.toList⟩

/-- **An expansion** has the literals of a text, and in the place of each placeholder the value of
its name, or the placeholder again. -/
theorem expand_eq_filled (value : String) (vars : Variables) :
    expand value vars = String.ofList ((Parts.ofPieces (pieces value)).filled (filling vars)) := by
  rw [expand, Parts.filled_ofPieces (filling vars) (Piece.expand vars) (fun _ => rfl) fun _ => rfl]

/-- **References and expansions agree.** Every text has exactly one split into literals and
placeholders each of which is the first one behind the one before it. The names of these placeholders
are what the text refers to, in order; and what it expands to are the literals with the values of
known names between them, and with the placeholders of unknown names as they were. So variables that
give the same values to what a text refers to expand it to the same, and those that give none leave
it as it is. -/
theorem references_and_expansion_by_parts (value : String) :
    ∃ parts : Parts, (parts.Splits value ∧ ∀ other : Parts, other.Splits value → other = parts) ∧
      Expander.placeholders.references value = parts.names ∧
      (∀ vars, Expander.placeholders.expand value vars =
        String.ofList (parts.filled (filling vars))) ∧
      (∀ vars others : Variables,
        (∀ name ∈ Expander.placeholders.references value, vars.get? name = others.get? name) →
          Expander.placeholders.expand value vars = Expander.placeholders.expand value others) ∧
      ∀ vars : Variables,
        (∀ name ∈ Expander.placeholders.references value, vars.get? name = none) →
          Expander.placeholders.expand value vars = value := by
  have names : Expander.placeholders.references value = (Parts.ofPieces (pieces value)).names :=
    (Parts.names_ofPieces (pieces value)).symm
  refine ⟨.ofPieces (pieces value), ⟨splits_iff.mpr rfl, fun other => splits_iff.mp⟩, names,
    expand_eq_filled value, fun vars others same => ?_, fun vars unknown => ?_⟩
  · have filled : (Parts.ofPieces (pieces value)).filled (filling vars) =
        (Parts.ofPieces (pieces value)).filled (filling others) := by
      refine Parts.filled_congr fun name mem => ?_
      rw [filling, filling, same name (by rwa [names])]
    change expand value vars = expand value others
    rw [expand_eq_filled, expand_eq_filled, filled]
  · have filled : (Parts.ofPieces (pieces value)).filled (filling vars) = value.toList := by
      refine Eq.trans (Parts.filled_congr fun name mem => ?_) (Parts.written_ofPieces value.toList)
      rw [filling, unknown name (by rwa [names])]
    change expand value vars = value
    rw [expand_eq_filled, filled, String.ofList_toList]

/-- Openings that are no placeholder are left alone, and so is one that was put in: only the names
of the two placeholders matter. -/
theorem references_and_expansion_of_broken_openings :
    let value := "$$\x7ba\x7d$\x7b$\x7bb\x7d$\x7b\x7d"
    let vars : Variables := .ofList [("a", "$\x7bb\x7d")]
    let others : Variables := .ofList [("a", "$\x7bb\x7d"), ("c", "x")]
    let unknown : Variables := .ofList [("c", "x")]
    references value = ["a", "b"] ∧ (∀ name ∈ references value, vars.get? name = others.get? name) ∧
      expand value vars = expand value others ∧
      (∀ name ∈ references value, unknown.get? name = none) ∧ expand value unknown = value := by
  intro value vars others unknown
  have refers : references value = ["a", "b"] := by decide +kernel
  obtain ⟨-, -, -, -, agree, unchanged⟩ := references_and_expansion_by_parts value
  have same : ∀ name ∈ references value, vars.get? name = others.get? name := by
    rw [refers]
    decide
  have free : ∀ name ∈ references value, unknown.get? name = none := by
    rw [refers]
    decide
  exact ⟨refers, same, agree _ _ same, free, unchanged _ free⟩

end DocPipeline.Placeholder
