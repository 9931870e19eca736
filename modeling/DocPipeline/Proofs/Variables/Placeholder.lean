import DocPipeline.Proofs.NameMap
import DocPipeline.Variables.Placeholder
import Mathlib.Data.List.TakeWhile

/-!
# The split of a text into pieces

What the pieces of a text are. A placeholder that stands anywhere in a text is one of its pieces,
for a name holds no dollar sign and so no two placeholders overlap. A text that expands to itself
though it refers to a known variable owes this to replacements that make up for one another, and
then one of them contains the very placeholder that it replaces.

## Main definitions

* `Placeholder.split`: the pieces of a list of characters.
* `Placeholder.Piece.written`: a piece as it is written.

## Main results

* `Placeholder.flatMap_written_split`: the pieces are all there is.
* `Placeholder.mem_split_of_written`: a placeholder anywhere in a text is one of the pieces.
* `Placeholder.exists_infix_of_append_flatMap_eq`: replacements that add up to the text they replace.
* `Placeholder.exists_selfReference_of_expand_eq`: texts that expand to themselves.
-/

namespace DocPipeline.Placeholder

/-! ### Placeholders in front of a text -/

/-- A name that a placeholder may have. -/
def IsName (name : List Char) : Prop := name ≠ [] ∧ ∀ c ∈ name, isNameChar c = true

/-- A piece as it is written. -/
def Piece.written : Piece → List Char
  | .char c => [c]
  | .reference name => '$' :: '\x7b' :: name.toList ++ ['\x7d']

/-- A placeholder as it is written. -/
def placeholder (name : List Char) : List Char := '$' :: '\x7b' :: name ++ ['\x7d']

/-- A text that starts with a placeholder is that placeholder with the rest behind it. -/
theorem eq_of_leading? {cs name rest : List Char} (leads : leading? cs = some (name, rest)) :
    IsName name ∧ cs = placeholder name ++ rest := by
  rw [leading?.eq_def] at leads
  split at leads
  · next body =>
      split at leads
      · next c others behind inside stops =>
          obtain ⟨rfl, rfl⟩ : c :: others = name ∧ behind = rest := by simpa using leads
          have parts := List.takeWhile_append_dropWhile (p := isNameChar) (l := body)
          refine ⟨⟨List.cons_ne_nil _ _, ?_⟩, ?_⟩
          · rw [← inside]
            exact fun d mem => List.mem_takeWhile_imp mem
          · rw [inside, stops] at parts
            simp [placeholder, ← parts]
      · cases leads
  · cases leads

/-- A placeholder is what a text starts with that has it in front. -/
theorem leading?_placeholder_append {name : List Char} (isName : IsName name) (rest : List Char) :
    leading? (placeholder name ++ rest) = some (name, rest) := by
  obtain ⟨nonempty, isName⟩ := isName
  obtain ⟨c, others, rfl⟩ := List.exists_cons_of_ne_nil nonempty
  have inside : (c :: others ++ '\x7d' :: rest).takeWhile isNameChar = c :: others := by
    rw [List.takeWhile_append_of_pos isName]
    simp [isNameChar]
  have stops : (c :: others ++ '\x7d' :: rest).dropWhile isNameChar = '\x7d' :: rest := by
    rw [List.dropWhile_append_of_pos isName]
    simp [isNameChar]
  have written : placeholder (c :: others) ++ rest =
      '$' :: '\x7b' :: (c :: others ++ '\x7d' :: rest) := by
    simp [placeholder]
  rw [written, leading?.eq_def]
  simp only [inside, stops]

/-- Nothing but a dollar sign starts a placeholder. -/
theorem leading?_of_ne_dollar {c : Char} (other : c ≠ '$') (cs : List Char) :
    leading? (c :: cs) = none := by
  cases leads : leading? (c :: cs) with
  | none => rfl
  | some found =>
      obtain ⟨-, starts⟩ := eq_of_leading? leads
      exact absurd (List.cons.inj starts).1 other

/-- What follows a text does not change the placeholder that it starts with. -/
theorem leading?_append {cs name rest : List Char} (leads : leading? cs = some (name, rest))
    (more : List Char) : leading? (cs ++ more) = some (name, rest ++ more) := by
  obtain ⟨isName, rfl⟩ := eq_of_leading? leads
  rw [List.append_assoc, leading?_placeholder_append isName]

/-- The characters of a name are no dollar signs. -/
theorem IsName.dollar_notMem {name : List Char} (isName : IsName name) : '$' ∉ name := by
  intro mem
  have := isName.2 _ mem
  contradiction

/-! ### Pieces -/

/-- The pieces of a list of characters. -/
def split (cs : List Char) : List Piece := piecesFrom [] cs

theorem pieces_eq_split (value : String) : pieces value = split value.toList := rfl

/-- Pieces are put behind those found before. -/
theorem piecesFrom_eq (found : List Piece) (cs : List Char) :
    piecesFrom found cs = found.reverse ++ split cs := by
  induction size : cs.length using Nat.strongRecOn generalizing found cs with
  | ind length ih =>
      rw [split, piecesFrom, piecesFrom]
      split
      · next name rest leads =>
          have less := leading?_length leads
          rw [ih _ (size ▸ less) _ _ rfl, ih _ (size ▸ less) [_] _ rfl]
          simp
      · split
        · simp
        · next c rest plain _ =>
            have less : rest.length < length := by
              rw [← size]
              exact Nat.lt_succ_self _
            rw [ih _ less _ _ rfl, ih _ less [_] _ rfl]
            simp

theorem split_nil : split [] = [] := by
  rw [split, piecesFrom]
  rfl

/-- A placeholder in front is the first piece. -/
theorem split_of_leading {cs name rest : List Char} (leads : leading? cs = some (name, rest)) :
    split cs = .reference (String.ofList name) :: split rest := by
  rw [split, piecesFrom]
  split
  · next other behind found =>
      rw [leads] at found
      obtain ⟨rfl, rfl⟩ : name = other ∧ rest = behind := by simpa using found
      rw [piecesFrom_eq]
      rfl
  · next found =>
      rw [leads] at found
      cases found

/-- Otherwise the first character is. -/
theorem split_cons {c : Char} {cs : List Char} (plain : leading? (c :: cs) = none) :
    split (c :: cs) = .char c :: split cs := by
  rw [split, piecesFrom]
  split
  · next found =>
      rw [plain] at found
      cases found
  · exact piecesFrom_eq [.char c] cs

/-- **Induction along the pieces of a text.** -/
@[elab_as_elim]
theorem split_induction {motive : List Char → Prop} (nil : motive [])
    (reference : ∀ {cs name rest}, leading? cs = some (name, rest) → motive rest → motive cs)
    (char : ∀ {c cs}, leading? (c :: cs) = none → motive cs → motive (c :: cs))
    (cs : List Char) : motive cs := by
  induction size : cs.length using Nat.strongRecOn generalizing cs with
  | ind length ih =>
      cases leads : leading? cs with
      | some found =>
          obtain ⟨name, rest⟩ := found
          exact reference leads (ih _ (size ▸ leading?_length leads) _ rfl)
      | none =>
          cases cs with
          | nil => exact nil
          | cons c cs => exact char leads (ih _ (size ▸ Nat.lt_succ_self _) _ rfl)

/-- **The pieces of a text are all there is**: written one after the other they are the text. -/
theorem flatMap_written_split (cs : List Char) : (split cs).flatMap Piece.written = cs := by
  induction cs using split_induction with
  | nil => rw [split_nil, List.flatMap_nil]
  | reference leads ih =>
      rw [split_of_leading leads, List.flatMap_cons, ih]
      obtain ⟨-, rfl⟩ := eq_of_leading? leads
      simp [Piece.written, placeholder]
  | char plain ih =>
      rw [split_cons plain, List.flatMap_cons, ih]
      rfl

/-- The names in pieces are names. -/
theorem isName_of_mem_split {cs : List Char} {name : String}
    (mem : .reference name ∈ split cs) : IsName name.toList := by
  induction cs using split_induction with
  | nil =>
      rw [split_nil] at mem
      cases mem
  | reference leads ih =>
      rw [split_of_leading leads] at mem
      rcases List.mem_cons.mp mem with same | mem
      · cases same
        rw [String.toList_ofList]
        exact (eq_of_leading? leads).1
      · exact ih mem
  | char plain ih =>
      rw [split_cons plain] at mem
      rcases List.mem_cons.mp mem with same | mem
      · cases same
      · exact ih mem

/-- The names that a text refers to are those of its pieces. -/
theorem mem_references_iff {value name : String} :
    name ∈ references value ↔ .reference name ∈ split value.toList := by
  rw [references, pieces_eq_split, List.mem_filterMap]
  constructor
  · rintro ⟨piece, mem, named⟩
    cases piece with
    | char c => cases named
    | reference other =>
        obtain rfl : other = name := by simpa [Piece.name?] using named
        exact mem
  · exact fun mem => ⟨_, mem, rfl⟩

/-- A dollar sign behind the first character of a text stands behind the placeholder that the text
starts with. -/
theorem exists_of_append_dollar {before after name rest : List Char} (isName : IsName name)
    (nonempty : before ≠ []) (same : before ++ '$' :: after = placeholder name ++ rest) :
    ∃ between, before = placeholder name ++ between ∧ rest = between ++ '$' :: after := by
  rcases List.append_eq_append_iff.mp same with ⟨extra, whole, starts⟩ | ⟨between, whole, starts⟩
  · cases extra with
    | nil =>
        rw [List.append_nil] at whole
        rw [List.nil_append] at starts
        exact ⟨[], by rw [whole, List.append_nil], starts.symm⟩
    | cons d extra =>
        -- the dollar sign would stand inside the placeholder
        obtain ⟨c, before, rfl⟩ := List.exists_cons_of_ne_nil nonempty
        have tail : '\x7b' :: name ++ ['\x7d'] = before ++ d :: extra := (List.cons.inj whole).2
        obtain rfl : '$' = d := (List.cons.inj starts).1
        have mem : '$' ∈ '\x7b' :: name ++ ['\x7d'] := by
          rw [tail]
          exact List.mem_append_right _ List.mem_cons_self
        have isIn : '$' ∈ name := by simpa using mem
        exact absurd isIn isName.dollar_notMem
  · exact ⟨between, whole, starts⟩

/-- **A placeholder anywhere in a text is one of its pieces.** -/
theorem mem_split_of_written {name : List Char} (isName : IsName name) (after : List Char)
    (before : List Char) :
    .reference (String.ofList name) ∈ split (before ++ (placeholder name ++ after)) := by
  have front := leading?_placeholder_append isName after
  induction whole : before ++ (placeholder name ++ after) using split_induction
    generalizing before with
  | nil => simp [placeholder] at whole
  | @reference cs other rest leads ih =>
      rw [split_of_leading leads]
      by_cases inFront : before = []
      · subst inFront
        rw [List.nil_append] at whole
        rw [← whole, front] at leads
        cases leads
        exact List.mem_cons_self
      · obtain ⟨isOther, starts⟩ := eq_of_leading? leads
        rw [starts] at whole
        obtain ⟨between, -, behind⟩ := exists_of_append_dollar isOther inFront whole
        exact List.mem_cons_of_mem _ (ih between behind.symm)
  | @char c cs plain ih =>
      rw [split_cons plain]
      cases before with
      | nil =>
          rw [List.nil_append] at whole
          rw [← whole, front] at plain
          cases plain
      | cons d before => exact List.mem_cons_of_mem _ (ih before (List.cons.inj whole).2)

/-! ### Replacements that add up -/

/-- Of two texts in one whole, the one that starts no earlier and ends no later lies within the
other. -/
theorem infix_of_append_eq {front old rest behind new others : List Char}
    (total : front ++ old ++ rest = behind ++ new ++ others)
    (notAhead : behind.length ≤ front.length)
    (reaches : (front ++ old).length ≤ (behind ++ new).length) : old <:+: new := by
  have ours : front ++ old <+: front ++ old ++ rest := List.prefix_append _ _
  have theirs : behind ++ new <+: front ++ old ++ rest := by
    rw [total]
    exact List.prefix_append _ _
  obtain ⟨before, starts⟩ := List.prefix_of_prefix_length_le
    ((List.prefix_append _ _).trans theirs) ((List.prefix_append _ _).trans ours) notAhead
  obtain ⟨after, ends⟩ := List.prefix_of_prefix_length_le ours theirs reaches
  rw [← starts, List.append_assoc, List.append_assoc, List.append_right_inj,
    ← List.append_assoc] at ends
  exact ⟨before, after, ends⟩

/-- The first place where a replacement is not set off against those before it: if two rows of texts
add up to the same, and the first row is not ahead, then one of the `marked` texts of the first row
lies within its replacement. -/
theorem exists_infix_of_append_flatMap_eq {α : Type} {marked : α → Prop} {old new : α → List Char}
    {pieces : List α} (same : ∀ piece ∈ pieces, ¬marked piece → old piece = new piece)
    (some : ∃ piece ∈ pieces, marked piece) {front behind : List Char}
    (total : front ++ pieces.flatMap old = behind ++ pieces.flatMap new)
    (notAhead : behind.length ≤ front.length) :
    ∃ piece ∈ pieces, marked piece ∧ old piece <:+: new piece := by
  induction pieces generalizing front behind with
  | nil =>
      obtain ⟨piece, mem, -⟩ := some
      cases mem
  | cons piece pieces ih =>
      have sameRest : ∀ other ∈ pieces, ¬marked other → old other = new other :=
        fun other mem => same other (List.mem_cons_of_mem _ mem)
      have later : (∃ other ∈ pieces, marked other ∧ old other <:+: new other) →
          ∃ other ∈ piece :: pieces, marked other ∧ old other <:+: new other := by
        rintro ⟨other, mem, found⟩
        exact ⟨other, List.mem_cons_of_mem _ mem, found⟩
      rw [List.flatMap_cons, List.flatMap_cons, ← List.append_assoc, ← List.append_assoc] at total
      by_cases isMarked : marked piece
      · by_cases reaches : (front ++ old piece).length ≤ (behind ++ new piece).length
        · exact ⟨piece, List.mem_cons_self, isMarked, infix_of_append_eq total notAhead reaches⟩
        · by_cases more : ∃ other ∈ pieces, marked other
          · exact later (ih sameRest more total (Nat.le_of_not_le reaches))
          · -- nothing is left that could make up for the difference
            have rest : pieces.flatMap old = pieces.flatMap new := by
              refine List.flatMap_congr fun other mem => sameRest other mem fun isToo => ?_
              exact more ⟨other, mem, isToo⟩
            have lengths := congrArg List.length total
            rw [rest] at lengths
            simp only [List.length_append] at lengths reaches
            omega
      · obtain ⟨other, mem, isToo⟩ := some
        rcases List.mem_cons.mp mem with rfl | mem
        · exact absurd isToo isMarked
        · refine later (ih sameRest ⟨other, mem, isToo⟩ total ?_)
          rw [same piece List.mem_cons_self isMarked, List.length_append, List.length_append]
          omega

/-- A piece that stands for the value of a known variable. -/
def Piece.IsKnown (vars : Variables) (piece : Piece) : Prop :=
  ∃ name value, piece = .reference name ∧ vars.get? name = some value

/-- Other pieces stay as they are written. -/
theorem Piece.expand_of_not_isKnown {vars : Variables} {piece : Piece}
    (unknown : ¬piece.IsKnown vars) : piece.expand vars = piece.written := by
  cases piece with
  | char c => rfl
  | reference name =>
      cases found : vars.get? name with
      | none => rw [Piece.expand, found, Piece.written]
      | some value => exact absurd ⟨name, value, rfl, found⟩ unknown

/-- **A text that expands to itself** and refers to a known variable refers to one whose value refers
to itself. -/
theorem exists_selfReference_of_expand_eq {vars : Variables} {value : String}
    (fixed : expand value vars = value) {name : String} (mem : name ∈ references value)
    (isKnown : name ∈ vars.names) :
    ∃ other own, vars.get? other = some own ∧ other ∈ references own := by
  obtain ⟨known, found⟩ := NameMap.exists_get?_of_mem_names isKnown
  have total : (split value.toList).flatMap Piece.written =
      (split value.toList).flatMap (Piece.expand vars) := by
    have chars := congrArg String.toList fixed
    rw [expand, pieces_eq_split, String.toList_ofList] at chars
    rw [flatMap_written_split, chars]
  obtain ⟨piece, isPiece, ⟨other, own, rfl, isOwn⟩, before, after, inside⟩ :=
    @exists_infix_of_append_flatMap_eq Piece (Piece.IsKnown vars) _ _ _
      (fun piece _ unknown => (Piece.expand_of_not_isKnown unknown).symm)
      ⟨_, mem_references_iff.mp mem, name, known, rfl, found⟩ [] [] total (Nat.le_refl _)
  refine ⟨other, own, isOwn, mem_references_iff.mpr ?_⟩
  have occurs := mem_split_of_written (isName_of_mem_split isPiece) after before
  rw [String.ofList_toList] at occurs
  rw [Piece.expand, isOwn] at inside
  have chars : own.toList = before ++ (placeholder other.toList ++ after) := by
    rw [← List.append_assoc]
    exact inside.symm
  rw [chars]
  exact occurs

end DocPipeline.Placeholder
