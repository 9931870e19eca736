import DocPipeline.Proofs.Document.Grammar

/-!
# The tags of documents that were read

Names are not checked when a text is read, but not everything can be a name either. A name has no
space in it and does not start like other markup, a key goes up to a space or an equals sign, no tag
has two attributes with one key, and the quotes in a name that stood in a closing tag pair up.

## Main definitions

* `Markup.Token.IsCut`: tags as they are cut out of texts.

## Main results

* `Markup.Token.isCut_of_mem_scan`: all tags in a text are like that.
* `Markup.isTagged_of_tagElement`: the names and keys of a tag.
* `Element.all_isTagged_of_parse`: the names and keys of a document that was read.
-/

namespace DocPipeline

namespace Markup

/-! ### Tags in texts -/

/-- A tag as it is cut out of a text: if it opens something, it does not start like other markup,
and if it closes something, its quotes pair up. -/
def Token.IsCut : Token → Prop
  | .openTag tag | .emptyTag tag => ∀ c, tag.head? = some c → c ≠ '!' ∧ c ≠ '?' ∧ c ≠ '/'
  | .closeTag name => ∃ content, name = closedName content ∧ IsBalanced content
  | .text _ | .cdata _ | .ignored | .broken _ => True

theorem closing_isCut (cs : List Char) : (closing cs).1.IsCut := by
  rw [closing]
  split
  · next content rest cut => exact ⟨content, rfl, (isBalanced_of_splitTag? cut).1⟩
  · trivial

theorem opening_isCut {cs : List Char}
    (starts : ∀ c, cs.head? = some c → c ≠ '!' ∧ c ≠ '?' ∧ c ≠ '/') : (opening cs).1.IsCut := by
  rw [opening]
  split
  · next content rest cut =>
      obtain ⟨-, rfl⟩ := isBalanced_of_splitTag? cut
      have first : ∀ c, content.head? = some c → c ≠ '!' ∧ c ≠ '?' ∧ c ≠ '/' := fun c found =>
        starts c (by rw [List.head?_append, found]; rfl)
      split
      · intro c found
        refine first c ?_
        rcases content with _ | ⟨d, _ | ⟨next, others⟩⟩
        · cases found
        · cases found
        · exact found
      · exact first
  · trivial

theorem declaration_isCut (cs : List Char) : (declaration cs).1.IsCut := by
  unfold declaration
  split
  · split
    · trivial
    · split <;> trivial
  · split
    · trivial
    · split <;> trivial
  · split
    · split
      · split <;> trivial
      · trivial
    · trivial
  · trivial

theorem instruction_isCut (cs : List Char) : (instruction cs).1.IsCut := by
  unfold instruction
  split
  · trivial
  · split <;> trivial

theorem bracketed_isCut (cs : List Char) : (bracketed cs).1.IsCut := by
  unfold bracketed
  split
  · trivial
  · exact declaration_isCut _
  · exact instruction_isCut _
  · exact closing_isCut _
  · next nonempty noBang noQuestion noSlash =>
      refine opening_isCut fun c first => ⟨?_, ?_, ?_⟩
      · rintro rfl
        exact noBang _ (List.head?_eq_some_iff.mp first).choose_spec
      · rintro rfl
        exact noQuestion _ (List.head?_eq_some_iff.mp first).choose_spec
      · rintro rfl
        exact noSlash _ (List.head?_eq_some_iff.mp first).choose_spec

namespace Token

theorem next_isCut {cs rest : List Char} {token : Token} (first : next cs = some (token, rest)) :
    token.IsCut := by
  unfold next at first
  split at first
  · cases first
  · next tail =>
      obtain rfl : (bracketed tail).1 = token := congrArg Prod.fst (Option.some.inj first)
      exact bracketed_isCut tail
  · obtain ⟨rfl, -⟩ := Prod.mk.inj (Option.some.inj first)
    trivial

/-- **All tags in a text** are cut out like that. -/
theorem isCut_of_mem_scan {cs : List Char} {token : Token} (mem : token ∈ scan cs) :
    token.IsCut := by
  induction cs using scan.induct with
  | case1 cs ends =>
      rw [scan] at mem
      split at mem
      · cases mem
      · next found => rw [ends] at found; cases found
  | case2 cs first rest found ih =>
      rw [scan_of_next found] at mem
      rcases List.mem_cons.mp mem with rfl | mem
      · exact next_isCut found
      · exact ih mem

end Token

/-! ### Names and keys -/

/-- The key of an attribute that was read. -/
theorem key_of_firstAttribute {c : Char} {cs key value rest : List Char}
    (reads : firstAttribute c cs = .ok (key, value, rest)) :
    key = c :: cs.takeWhile (!endsKey ·) := by
  simp only [firstAttribute] at reads
  split at reads
  · split at reads
    · split at reads
      · split at reads
        · cases reads
        · exact (Prod.mk.inj (Except.ok.inj reads)).1.symm
      · cases reads
    · cases reads
  · cases reads

theorem isKey_of_firstAttribute {c : Char} {text cs key value rest : List Char}
    (behind : text.dropWhile isSpace = c :: cs)
    (reads : firstAttribute c cs = .ok (key, value, rest)) : IsKey (String.ofList key) := by
  have noSpace := List.head?_dropWhile_not isSpace text
  rw [behind] at noSpace
  refine ⟨c, cs.takeWhile (!endsKey ·), ?_, noSpace, fun d mem => ?_⟩
  · rw [String.toList_ofList, key_of_firstAttribute reads]
  · simpa using List.mem_takeWhile_imp mem

/-- The attributes of a tag have keys, and all of them different. -/
theorem keys_of_readAttributesFrom {found attributes : List (String × String)} {cs : List Char}
    (keys : ∀ pair ∈ found, IsKey pair.1) (distinct : (found.map Prod.fst).Nodup)
    (reads : readAttributesFrom found cs = .ok attributes) :
    (∀ pair ∈ attributes, IsKey pair.1) ∧ (attributes.map Prod.fst).Nodup := by
  refine readAttributesFrom_induction
    (motive := fun found _ => (∀ pair ∈ found, IsKey pair.1) → (found.map Prod.fst).Nodup →
      (∀ pair ∈ attributes, IsKey pair.1) ∧ (attributes.map Prod.fst).Nodup)
    ?_ ?_ reads keys distinct
  · intro cs ends keys distinct
    refine ⟨fun pair mem => keys pair (List.mem_reverse.mpr mem), ?_⟩
    exact (List.Perm.nodup_iff ((List.reverse_perm attributes).map Prod.fst)).mp distinct
  · intro found cs c tail key raw rest value behind read fresh good ih keys distinct
    refine ih (List.forall_mem_cons.mpr ⟨isKey_of_firstAttribute behind read, keys⟩) ?_
    rw [List.map_cons, List.nodup_cons]
    refine ⟨fun mem => ?_, distinct⟩
    obtain ⟨entry, mem, same⟩ := List.mem_map.mp mem
    rw [List.any_eq_false] at fresh
    exact fresh entry mem (beq_iff_eq.mpr same)

/-- The name of a tag that does not start like other markup. -/
theorem isName_tagName {tag : List Char}
    (starts : ∀ c, tag.head? = some c → c ≠ '!' ∧ c ≠ '?' ∧ c ≠ '/') :
    IsName (String.ofList (tagName tag)) where
  noSpace c mem := by
    rw [String.toList_ofList, tagName] at mem
    simpa using List.mem_takeWhile_imp mem
  starts c first := by
    rw [String.toList_ofList] at first
    refine starts c ?_
    cases tag with
    | nil => cases first
    | cons d tag =>
        rw [tagName, List.takeWhile_cons] at first
        split at first
        · exact first
        · cases first

/-- **The names and keys of a tag.** -/
theorem isTagged_of_tagElement {tag : List Char} {name : String}
    {attributes : List (String × String)}
    (starts : ∀ c, tag.head? = some c → c ≠ '!' ∧ c ≠ '?' ∧ c ≠ '/')
    (reads : Assembly.tagElement tag = .ok ⟨name, attributes, []⟩) :
    IsName name ∧ (∀ pair ∈ attributes, IsKey pair.1) ∧ (attributes.map Prod.fst).Nodup := by
  obtain rfl : name = String.ofList (tagName tag) := (Assembly.tagElement_eq_ok reads).1
  exact ⟨isName_tagName starts, @keys_of_readAttributesFrom [] _ _ (by simp) .nil
    (Assembly.readAttributes_of_tagElement reads)⟩

theorem isMark_of_isSpace {c : Char} (space : isSpace c = true) : isMark c = false := by
  simp only [isSpace, Bool.or_eq_true, decide_eq_true_eq] at space
  rcases space with ((rfl | rfl) | rfl) | rfl <;> rfl

/-- The name in a closing tag is balanced if the tag is. -/
theorem isBalanced_closedName {content : List Char} (balanced : IsBalanced content) :
    IsBalanced (closedName content) := by
  rw [closedName]
  split
  · exact balanced
  · have spaces : ∀ c ∈ (content.reverse.takeWhile isSpace).reverse, isMark c = false :=
      fun c mem => isMark_of_isSpace (List.mem_takeWhile_imp (List.mem_reverse.mp mem))
    refine isBalanced_of_append_unmarked spaces ?_
    rw [← List.reverse_append, List.takeWhile_append_dropWhile, List.reverse_reverse]
    exact balanced

/-! ### Documents -/

/-- The elements among spelled nodes. -/
theorem SpellsNodes.all_isTagged {tokens : List Token} {nodes : List Node}
    (spells : SpellsNodes tokens nodes) (cut : ∀ token ∈ tokens, token.IsCut) :
    ∀ child, .element child ∈ nodes → child.All Element.IsTagged := by
  induction spells with
  | nil => simp
  | ignored _ ih => exact ih fun token mem => cut token (List.mem_cons_of_mem _ mem)
  | blank _ _ _ ih => exact ih fun token mem => cut token (List.mem_cons_of_mem _ mem)
  | text _ _ _ ih =>
      intro child mem
      exact ih (fun token mem => cut token (List.mem_cons_of_mem _ mem)) child (by simpa using mem)
  | cdata _ ih =>
      intro child mem
      exact ih (fun token mem => cut token (List.mem_cons_of_mem _ mem)) child (by simpa using mem)
  | empty reads _ ih =>
      obtain ⟨own, later⟩ := List.forall_mem_cons.mp cut
      obtain ⟨named, keys, distinct⟩ := isTagged_of_tagElement own reads
      intro child mem
      rcases List.mem_cons.mp mem with same | mem
      · obtain rfl := Node.element.inj same
        exact Element.all_iff.mpr ⟨⟨named, keys, distinct, by simp⟩, by simp⟩
      · exact ih later child mem
  | @nested tag name attributes inner children rest nodes reads _ _ content others =>
      obtain ⟨own, later⟩ := List.forall_mem_cons.mp cut
      obtain ⟨named, keys, distinct⟩ := isTagged_of_tagElement own reads
      rw [List.forall_mem_append, List.forall_mem_cons] at later
      obtain ⟨within, ⟨closing, same, balanced⟩, behind⟩ := later
      intro child mem
      rcases List.mem_cons.mp mem with sameNode | mem
      · obtain rfl := Node.element.inj sameNode
        have closes : IsBalanced name.toList := same ▸ isBalanced_closedName balanced
        exact Element.all_iff.mpr ⟨⟨named, keys, distinct, fun _ => closes⟩, content within⟩
      · exact others behind child mem

/-- A spelled element. -/
theorem SpellsElement.all_isTagged {tokens : List Token} {e : Element}
    (spells : SpellsElement tokens e) (cut : ∀ token ∈ tokens, token.IsCut) :
    e.All Element.IsTagged :=
  spells.node.all_isTagged cut e List.mem_cons_self

end Markup

/-- **The names and keys of a document that was read.** -/
theorem Element.all_isTagged_of_parse {text : String} {e : Element}
    (parses : Element.parse text = .ok e) : e.All IsTagged := by
  obtain ⟨before, inner, after, tokens, -, spells, -⟩ := Markup.assemble_eq_ok_iff.mp parses
  refine spells.all_isTagged fun token mem => ?_
  have found : token ∈ Markup.Token.scan (Markup.withoutMark text.toList) := by
    rw [tokens]
    simp [mem]
  exact Markup.Token.isCut_of_mem_scan found

end DocPipeline
