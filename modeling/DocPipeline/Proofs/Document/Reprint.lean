import DocPipeline.Proofs.Document.Tagged

/-!
# Documents that were read, written again

A document that was read is written with the names that it was read with. Names are not checked, so
not every document that can be read can be read back: once a name stands in a tag of its own, it may
be that the tag ends too early or too late, or is taken for a tag of another kind. The normalised
document is read if and only if that happens to none of its tags.

One direction is the round trip with legible tags. For the other, a document is told as the pieces
that it is made of, in the order of its text. Reading keeps them: tokens have the pieces of whatever
they spell. So if the normalised document is read, the pieces that come out of the text are those
that went in, and by way of them, each tag of the text is found to be the tag that was written.

## Main definitions

* `Piece`: what a document is made of, in the order of its text.
* `Element.pieces`, `Markup.Token.pieces`: the pieces of an element, and those of a token.
* `Markup.textPieces`: the pieces of a text.

## Main results

* `Markup.SpellsElement.pieces`: tokens have the pieces of the element that they spell.
* `Markup.tagElement_goes_on`: a tag with more text behind it starts another element.
* `Markup.exists_tag_of_textPieces`: what a piece says of the tag that it came from.
* `Markup.legible_of_textPieces`, `Markup.legible_of_nodePieces`: what the pieces of written
  elements and lists of nodes say of their tags, wherever they stand.
* `Element.parse_toXml_iff_legible`: which of the documents that were read can be read back.
-/

namespace DocPipeline

/-! ### Pieces -/

/-- A piece of a document: an element starts or stops, or text stands there. Faults are pieces of
texts that are no documents. -/
inductive Piece where
  | start (name : String) (attributes : List (String × String))
  | stop (name : String)
  | text (content : String)
  | fault

mutual

/-- The pieces of an element, in the order of its text. -/
def Element.pieces : Element → List Piece
  | ⟨name, attributes, children⟩ => .start name attributes :: (nodePieces children ++ [.stop name])

/-- The pieces of a list of nodes. -/
def nodePieces : List Node → List Piece
  | [] => []
  | .text content :: rest => .text content :: nodePieces rest
  | .element e :: rest => e.pieces ++ nodePieces rest

end

theorem nodePieces_append (first second : List Node) :
    nodePieces (first ++ second) = nodePieces first ++ nodePieces second := by
  induction first with
  | nil => rfl
  | cons node first ih => cases node <;> simp [nodePieces, ih]

namespace Markup

open Token (next scan)

/-- The pieces of a token. -/
def Token.pieces : Token → List Piece
  | .openTag tag =>
    match Assembly.tagElement tag with
    | .ok e => [.start e.name e.attributes]
    | .error _ => [.fault]
  | .emptyTag tag =>
    match Assembly.tagElement tag with
    | .ok e => [.start e.name e.attributes, .stop e.name]
    | .error _ => [.fault]
  | .closeTag name => [.stop (String.ofList name)]
  | .text raw =>
    match unescape? raw with
    | none => [.fault]
    | some content =>
      if content.all Text.isBlankChar then [] else [.text (String.ofList content)]
  | .cdata content => [.text (String.ofList content)]
  | .ignored => []
  | .broken _ => [.fault]

/-- Tokens have the pieces of the nodes that they spell. -/
theorem SpellsNodes.pieces {tokens : List Token} {nodes : List Node}
    (spells : SpellsNodes tokens nodes) : tokens.flatMap Token.pieces = nodePieces nodes := by
  induction spells with
  | nil => rfl
  | ignored _ ih => exact ih
  | blank reads isBlank _ ih => simp [Token.pieces, reads, isBlank, ih]
  | text reads notBlank _ ih => simp [Token.pieces, reads, notBlank, nodePieces, ih]
  | cdata _ ih => simp [Token.pieces, nodePieces, ih]
  | empty reads _ ih => simp [Token.pieces, reads, nodePieces, Element.pieces, ih]
  | nested reads _ _ content others =>
      simp [Token.pieces, reads, nodePieces, Element.pieces, content, others]

theorem SpellsElement.pieces {tokens : List Token} {e : Element}
    (spells : SpellsElement tokens e) : tokens.flatMap Token.pieces = e.pieces := by
  rw [spells.node.pieces, nodePieces, nodePieces, List.append_nil]

/-- The pieces of a text. -/
def textPieces (cs : List Char) : List Piece := (scan cs).flatMap Token.pieces

theorem textPieces_of_next {cs rest : List Char} {token : Token}
    (first : next cs = some (token, rest)) : textPieces cs = token.pieces ++ textPieces rest := by
  rw [textPieces, scan_of_next first, List.flatMap_cons, textPieces]

/-- Escaped text, up to the next bracket, is text of its own. -/
theorem textPieces_escape (content : String) (rest : List Char) :
    textPieces (escape content.toList ++ '<' :: rest) =
      nodePieces (ownText content) ++ textPieces ('<' :: rest) := by
  cases chars : escape content.toList with
  | nil => rw [ownText_of_escape chars, nodePieces, List.nil_append, List.nil_append]
  | cons c cs =>
      have spared : ∀ d ∈ c :: cs, isMark d = false := by
        intro d mem
        rw [← chars] at mem
        exact escape_spares mem
      rw [textPieces_of_next (next_text spared rest), Token.pieces, ← chars, unescape?_escape]
      cases blank : content.toList.all Text.isBlankChar <;>
        simp [ownText, Text.isBlank, blank, nodePieces]

/-! ### More text in a tag -/

/-- Taking from a list stops at the same place with more behind it. -/
theorem takeWhile_append_of_dropWhile {p : Char → Bool} {cs rest : List Char} {stop : Char}
    (stops : cs.dropWhile p = stop :: rest) (more : List Char) :
    (cs ++ more).takeWhile p = cs.takeWhile p ∧
      (cs ++ more).dropWhile p = stop :: (rest ++ more) := by
  have whole : cs ++ more = cs.takeWhile p ++ stop :: (rest ++ more) := by
    rw [← List.cons_append, ← List.append_assoc, ← stops, List.takeWhile_append_dropWhile]
  have refused : p stop = false := by
    have first := List.head?_dropWhile_not p cs
    rw [stops] at first
    exact first
  rw [whole]
  exact takeWhile_append_cons p (fun c mem => List.mem_takeWhile_imp mem) refused _

/-- An attribute is read in the same way, whatever stands behind it. -/
theorem firstAttribute_append {c : Char} {cs key value rest : List Char}
    (reads : firstAttribute c cs = .ok (key, value, rest)) (more : List Char) :
    firstAttribute c (cs ++ more) = .ok (key, value, rest ++ more) := by
  simp only [firstAttribute] at reads ⊢
  split at reads
  · next behind equals =>
      split at reads
      · next quote body opens =>
          split at reads
          · next isQuote =>
              split at reads
              · cases reads
              · next last others closes =>
                  obtain ⟨rfl, rfl, rfl⟩ : c :: cs.takeWhile (!endsKey ·) = key ∧
                      body.takeWhile (· ≠ quote) = value ∧ others = rest := by
                    simpa using reads
                  obtain ⟨stop, tail, ends⟩ : ∃ stop tail,
                      cs.dropWhile (!endsKey ·) = stop :: tail := by
                    refine List.exists_cons_of_ne_nil fun none => ?_
                    rw [none] at equals
                    cases equals
                  obtain ⟨keyText, behindKey⟩ := takeWhile_append_of_dropWhile ends more
                  obtain ⟨valueText, behindValue⟩ := takeWhile_append_of_dropWhile closes more
                  rw [ends] at equals
                  have equalsThere := (takeWhile_append_of_dropWhile equals more).2
                  have quoteThere := (takeWhile_append_of_dropWhile opens more).2
                  rw [List.cons_append] at equalsThere
                  simp only [keyText, behindKey, equalsThere, quoteThere, isQuote, reduceIte,
                    valueText, behindValue]
          · cases reads
      · cases reads
  · cases reads

/-- Reading attributes goes on behind those that are there. -/
theorem readAttributesFrom_append {found attributes : List (String × String)} {cs : List Char}
    (reads : readAttributesFrom found cs = .ok attributes) (more : List Char) :
    readAttributesFrom found (cs ++ more) = readAttributesFrom attributes.reverse more := by
  refine readAttributesFrom_induction
    (motive := fun found cs =>
      readAttributesFrom found (cs ++ more) = readAttributesFrom attributes.reverse more)
    ?_ ?_ reads
  · intro cs ends
    have spaces : ∀ c ∈ cs, isSpace c = true := List.dropWhile_eq_nil_iff.mp ends
    have same : (cs ++ more).dropWhile isSpace = more.dropWhile isSpace :=
      List.dropWhile_append_of_pos spaces
    cases behind : more.dropWhile isSpace with
    | nil =>
        rw [readAttributesFrom_of_blank behind, readAttributesFrom_of_blank (same.trans behind)]
    | cons c tail =>
        rw [readAttributesFrom_of_cons behind, readAttributesFrom_of_cons (same.trans behind)]
  · intro found cs c tail key raw rest value behind read fresh good ih
    have longer := (takeWhile_append_of_dropWhile behind more).2
    rw [readAttributesFrom_of_cons longer, firstAttribute_append read]
    simp only [fresh, good, Bool.false_eq_true, reduceIte]
    exact ih

/-- Where there is anything but spaces, there are more attributes. -/
theorem length_readAttributesFrom {found attributes : List (String × String)} {cs : List Char}
    (reads : readAttributesFrom found cs = .ok attributes) :
    found.length ≤ attributes.length ∧
      (cs.dropWhile isSpace ≠ [] → found.length < attributes.length) := by
  refine readAttributesFrom_induction
    (motive := fun found cs => found.length ≤ attributes.length ∧
      (cs.dropWhile isSpace ≠ [] → found.length < attributes.length)) ?_ ?_ reads
  · intro cs ends
    exact ⟨(List.length_reverse).le, fun more => absurd ends more⟩
  · intro found cs c tail key raw rest value _ _ _ _ ih
    exact ⟨Nat.le_of_succ_le ih.1, fun _ => ih.1⟩

/-- Anything but spaces behind attributes makes other attributes of them. -/
theorem readAttributes_goes_on {cs more : List Char} {c : Char}
    {attributes : List (String × String)} (reads : readAttributes cs = .ok attributes)
    (noSpace : isSpace c = false) :
    readAttributes (cs ++ c :: more) ≠ .ok attributes := by
  intro again
  rw [readAttributes, readAttributesFrom_append reads] at again
  have fewer := (length_readAttributesFrom again).2 (by simp [noSpace])
  simp at fewer

/-- **More text behind a tag**, if it does not start with a space, starts another element. -/
theorem tagElement_goes_on {tag more : List Char} {c : Char} {e : Element}
    (reads : Assembly.tagElement tag = .ok e) (noSpace : isSpace c = false) :
    Assembly.tagElement (tag ++ c :: more) ≠ .ok e := by
  intro again
  cases behind : tagRest tag with
  | nil =>
      -- the name is longer than it was
      have whole : ∀ d ∈ tag, (!isSpace d) = true := List.dropWhile_eq_nil_iff.mp behind
      have same := (Assembly.tagElement_eq_ok again).1.symm.trans
        (Assembly.tagElement_eq_ok reads).1
      have lengths := congrArg List.length (String.ofList_inj.mp same)
      rw [tagName, tagName, List.takeWhile_append_of_pos whole, List.takeWhile_cons, noSpace,
        List.takeWhile_eq_self_iff.mpr whole] at lengths
      simp at lengths
  | cons d rest =>
      -- the name is the same, and there are more attributes than there were
      have longer : tagRest (tag ++ c :: more) = tagRest tag ++ c :: more := by
        rw [tagRest, (takeWhile_append_of_dropWhile behind _).2, behind]
        rfl
      have attributes := Assembly.readAttributes_of_tagElement again
      rw [longer] at attributes
      exact readAttributes_goes_on (Assembly.readAttributes_of_tagElement reads) noSpace attributes

/-- Where two tags of one text start with it and start the same element, they are the same tag. -/
theorem eq_of_tagElement {first second more others : List Char} {c d : Char} {e : Element}
    (reads : Assembly.tagElement first = .ok e) (again : Assembly.tagElement second = .ok e)
    (noSpace : isSpace c = false) (noSpace' : isSpace d = false)
    (same : first ++ c :: more = second ++ d :: others) :
    first = second ∧ c :: more = d :: others := by
  rcases List.append_eq_append_iff.mp same with
    ⟨_ | ⟨x, xs⟩, rfl, behind⟩ | ⟨_ | ⟨x, xs⟩, rfl, behind⟩
  · exact ⟨(List.append_nil first).symm, behind⟩
  · obtain ⟨rfl, -⟩ := List.cons.inj behind
    exact absurd again (tagElement_goes_on reads noSpace)
  · exact ⟨List.append_nil second, behind.symm⟩
  · obtain ⟨rfl, -⟩ := List.cons.inj behind
    exact absurd reads (tagElement_goes_on again noSpace')

/-! ### Tags that come out as they went in -/

/-- What does not start like a declaration or an instruction cannot stand beside an element. -/
theorem not_isMisc_bracketed {cs : List Char}
    (starts : ∀ c, cs.head? = some c → c ≠ '!' ∧ c ≠ '?') : ¬(bracketed cs).1.IsMisc := by
  intro misc
  unfold bracketed at misc
  split at misc
  · cases misc
  · exact (starts '!' rfl).1 rfl
  · exact (starts '?' rfl).2 rfl
  · rw [closing] at misc
    split at misc <;> cases misc
  · rw [opening] at misc
    split at misc
    · split at misc <;> cases misc
    · cases misc

variable {name : String} {attributes : List (String × String)} {cs rest : List Char}
  {more : List Piece}

/-- A tag that starts an element without children. -/
theorem tagElement_of_pieces_openTag {tag : List Char} {others : List Piece}
    (pieces : (Token.openTag tag).pieces ++ others = .start name attributes :: more) :
    Assembly.tagElement tag = .ok ⟨name, attributes, []⟩ ∧ more = others := by
  rw [Token.pieces] at pieces
  split at pieces
  · next e reads =>
      obtain ⟨own, pairs, children⟩ := e
      obtain rfl : children = [] := (Assembly.tagElement_eq_ok reads).2
      obtain ⟨same, rfl⟩ := List.cons.inj pieces
      obtain ⟨rfl, rfl⟩ := Piece.start.inj same
      exact ⟨reads, rfl⟩
  · cases pieces

/-- A tag that is a whole element. -/
theorem tagElement_of_pieces_emptyTag {tag : List Char} {others : List Piece}
    (pieces : (Token.emptyTag tag).pieces ++ others = .start name attributes :: more) :
    Assembly.tagElement tag = .ok ⟨name, attributes, []⟩ ∧ more = .stop name :: others := by
  rw [Token.pieces] at pieces
  split at pieces
  · next e reads =>
      obtain ⟨own, pairs, children⟩ := e
      obtain rfl : children = [] := (Assembly.tagElement_eq_ok reads).2
      obtain ⟨same, rfl⟩ := List.cons.inj pieces
      obtain ⟨rfl, rfl⟩ := Piece.start.inj same
      exact ⟨reads, rfl⟩
  · cases pieces

/-- The tag behind an opening bracket, if it starts an element. -/
theorem exists_tag_of_opening
    (pieces : (opening cs).1.pieces ++ textPieces (opening cs).2 =
      .start name attributes :: more) :
    ∃ tag rest, Assembly.tagElement tag = .ok ⟨name, attributes, []⟩ ∧
      (IsBalanced tag ∧ tag.getLast? ≠ some '/' ∧ cs = tag ++ '>' :: rest ∧
          more = textPieces rest ∨
        IsBalanced (tag ++ ['/']) ∧ cs = tag ++ '/' :: '>' :: rest ∧
          more = .stop name :: textPieces rest) := by
  rw [opening] at pieces
  split at pieces
  · next content rest cut =>
      obtain ⟨balanced, rfl⟩ := isBalanced_of_splitTag? cut
      split at pieces
      · next slash =>
          obtain ⟨tag, rfl⟩ := List.getLast?_eq_some_iff.mp slash
          rw [List.dropLast_concat] at pieces
          obtain ⟨reads, others⟩ := tagElement_of_pieces_emptyTag pieces
          exact ⟨tag, rest, reads, .inr ⟨balanced, by simp, others⟩⟩
      · next noSlash =>
          obtain ⟨reads, others⟩ := tagElement_of_pieces_openTag pieces
          exact ⟨content, rest, reads, .inl ⟨balanced, noSlash, rfl, others⟩⟩
  · cases pieces

/-- **A tag that starts an element** is cut out at its bracket, or in front of the slash before
it. -/
theorem exists_tag_of_textPieces (starts : ∀ c, cs.head? = some c → c ≠ '!' ∧ c ≠ '?')
    (pieces : textPieces ('<' :: cs) = .start name attributes :: more) :
    cs.head? ≠ some '/' ∧
      ∃ tag rest, Assembly.tagElement tag = .ok ⟨name, attributes, []⟩ ∧
        (IsBalanced tag ∧ tag.getLast? ≠ some '/' ∧ cs = tag ++ '>' :: rest ∧
            more = textPieces rest ∨
          IsBalanced (tag ++ ['/']) ∧ cs = tag ++ '/' :: '>' :: rest ∧
            more = .stop name :: textPieces rest) := by
  have first : next ('<' :: cs) = some ((bracketed cs).1, (bracketed cs).2) := rfl
  rw [textPieces_of_next first] at pieces
  unfold bracketed at pieces
  split at pieces
  · cases pieces
  · exact absurd rfl (starts '!' rfl).1
  · exact absurd rfl (starts '?' rfl).2
  · -- a closing tag starts nothing
    rw [closing] at pieces
    split at pieces <;> cases pieces
  · next noSlash =>
      refine ⟨fun slash => ?_, exists_tag_of_opening pieces⟩
      obtain ⟨others, rfl⟩ := List.head?_eq_some_iff.mp slash
      exact noSlash others rfl

/-- A written tag with its bracket or slash does not start like a declaration or an instruction. -/
theorem head?_writeTag_append (named : IsName name) {stop : Char} (stops : stop = '>' ∨ stop = '/')
    {c : Char} (first : (writeTag name attributes ++ stop :: rest).head? = some c) :
    c ≠ '!' ∧ c ≠ '?' := by
  rw [List.head?_append] at first
  cases own : (writeTag name attributes).head? with
  | some d =>
      rw [own] at first
      obtain rfl := Option.some.inj first
      exact ⟨(head?_writeTag named own).1, (head?_writeTag named own).2.1⟩
  | none =>
      rw [own] at first
      obtain rfl := Option.some.inj first
      rcases stops with rfl | rfl <;> decide

/-- Nor does the text of an element, behind its bracket. -/
theorem exists_head?_writeElement {e : Element} (named : IsName e.name) :
    ∃ cs, writeElement e = '<' :: cs ∧ ∀ c, cs.head? = some c → c ≠ '!' ∧ c ≠ '?' := by
  obtain ⟨name, attributes, _ | ⟨first, others⟩⟩ := e
  · exact ⟨_, by simpa using writeElement_nil name attributes [],
      fun c => head?_writeTag_append named (.inr rfl)⟩
  · exact ⟨_, by simpa using writeElement_cons name attributes first others [],
      fun c => head?_writeTag_append named (.inl rfl)⟩

/-- The tag of an element with children, if it comes out as it went in. -/
theorem openTag_of_textPieces (named : IsName name)
    (keys : ∀ pair ∈ attributes, IsKey pair.1) (distinct : (attributes.map Prod.fst).Nodup)
    (pieces : textPieces ('<' :: (writeTag name attributes ++ '>' :: rest)) =
      .start name attributes :: more) :
    IsBalanced (writeTag name attributes) ∧ (writeTag name attributes).getLast? ≠ some '/' ∧
      textPieces rest = more := by
  have written := tagElement_writeTag named.noSpace keys distinct
  obtain ⟨-, tag, behind, reads, cut⟩ :=
    exists_tag_of_textPieces (fun c => head?_writeTag_append named (.inl rfl)) pieces
  rcases cut with ⟨balanced, opens, same, others⟩ | ⟨-, same, -⟩
  · obtain ⟨rfl, behind⟩ := eq_of_tagElement written reads rfl rfl same
    exact ⟨balanced, opens, others ▸ congrArg textPieces (List.cons.inj behind).2⟩
  · obtain ⟨-, behind⟩ := eq_of_tagElement written reads rfl rfl same
    exact absurd (List.cons.inj behind).1 (by decide)

/-- The tag of an element without children, if it comes out as it went in. -/
theorem emptyTag_of_textPieces (named : IsName name)
    (keys : ∀ pair ∈ attributes, IsKey pair.1) (distinct : (attributes.map Prod.fst).Nodup)
    (pieces : textPieces ('<' :: (writeTag name attributes ++ '/' :: '>' :: rest)) =
      .start name attributes :: .stop name :: more) :
    IsBalanced (writeTag name attributes) ∧ writeTag name attributes ≠ [] ∧
      textPieces rest = more := by
  have written := tagElement_writeTag named.noSpace keys distinct
  obtain ⟨noSlash, tag, behind, reads, cut⟩ :=
    exists_tag_of_textPieces (fun c => head?_writeTag_append named (.inr rfl)) pieces
  rcases cut with ⟨-, -, same, -⟩ | ⟨balanced, same, others⟩
  · obtain ⟨-, behind⟩ := eq_of_tagElement written reads rfl rfl same
    exact absurd (List.cons.inj behind).1 (by decide)
  · obtain ⟨rfl, behind⟩ := eq_of_tagElement written reads rfl rfl same
    refine ⟨isBalanced_of_append_unmarked (by simp [isMark]) balanced, ?_, ?_⟩
    · intro nothing
      rw [nothing] at noSlash
      exact noSlash rfl
    · rw [(List.cons.inj (List.cons.inj behind).2).2]
      exact (List.cons.inj others).2.symm

/-! ### Elements that come out as they went in -/

mutual

/-- **An element that comes out of its text as it went in** is legible at every depth. -/
theorem legible_of_textPieces (e : Element) (tagged : e.All Element.IsTagged) (rest : List Char)
    (more : List Piece)
    (pieces : textPieces (writeElement e ++ rest) = e.normalise.pieces ++ more) :
    e.All Element.IsLegible ∧ textPieces rest = more := by
  obtain ⟨own, below⟩ := Element.all_iff.mp tagged
  match e with
  | ⟨name, attributes, []⟩ =>
      rw [writeElement_nil] at pieces
      obtain ⟨balanced, nonempty, behind⟩ :=
        emptyTag_of_textPieces own.name own.keys own.distinct pieces
      refine ⟨Element.all_iff.mpr ⟨⟨balanced, fun _ => nonempty, ?_⟩, ?_⟩, behind⟩
      · exact fun children => absurd rfl children
      · simp
  | ⟨name, attributes, first :: others⟩ =>
      rw [writeElement_cons, Element.normalise, Element.pieces, List.cons_append,
        List.append_assoc] at pieces
      obtain ⟨balanced, opens, inside⟩ :=
        openTag_of_textPieces own.name own.keys own.distinct pieces
      rw [← tidied_empty, ← escape_empty_append (writeNodes _ ++ _)] at inside
      obtain ⟨children, closes⟩ := legible_of_nodePieces (first :: others) below "" _ _ inside
      rw [textPieces_of_next (next_closeTag own.name.noSpace (own.closes nofun) rest)] at closes
      refine ⟨Element.all_iff.mpr ⟨⟨balanced, ?_, fun _ => opens⟩, children⟩, ?_⟩
      · exact nofun
      · exact (List.cons.inj closes).2
termination_by sizeOf e

/-- **Nodes that come out of their text as they went in**, with some text in front of them that is
still to come. -/
theorem legible_of_nodePieces (nodes : List Node)
    (tagged : ∀ child, .element child ∈ nodes → child.All Element.IsTagged) (pending : String)
    (rest : List Char) (more : List Piece)
    (pieces : textPieces (escape pending.toList ++ (writeNodes nodes ++ '<' :: rest)) =
      nodePieces (tidied (.text pending :: normaliseNodes nodes)) ++ more) :
    (∀ child, .element child ∈ nodes → child.All Element.IsLegible) ∧
      textPieces ('<' :: rest) = more := by
  match nodes with
  | [] =>
      rw [writeNodes, normaliseNodes, tidied_text, List.nil_append, textPieces_escape] at pieces
      exact ⟨by simp, List.append_cancel_left pieces⟩
  | .text content :: others =>
      rw [writeNodes, normaliseNodes, tidied_text_text, List.append_assoc, ← List.append_assoc,
        ← escape_append, ← String.toList_append] at pieces
      obtain ⟨children, behind⟩ := legible_of_nodePieces others
        (fun child mem => tagged child (List.mem_cons_of_mem _ mem)) _ rest more pieces
      exact ⟨by simpa using children, behind⟩
  | .element e :: others =>
      obtain ⟨cs, starts⟩ := exists_writeElement e
      have inFront := textPieces_escape pending (cs ++ (writeNodes others ++ '<' :: rest))
      rw [← List.cons_append, ← starts] at inFront
      rw [writeNodes, normaliseNodes, tidied_text_element, List.append_assoc, inFront,
        nodePieces_append, nodePieces, List.append_assoc, List.append_assoc] at pieces
      obtain ⟨first, inside⟩ := legible_of_textPieces e (tagged e List.mem_cons_self) _ _
        (List.append_cancel_left pieces)
      rw [← tidied_empty, ← escape_empty_append (writeNodes others ++ _)] at inside
      obtain ⟨children, behind⟩ := legible_of_nodePieces others
        (fun child mem => tagged child (List.mem_cons_of_mem _ mem)) "" rest more inside
      refine ⟨fun child mem => ?_, behind⟩
      rcases List.mem_cons.mp mem with same | mem
      · rw [Node.element.inj same]
        exact first
      · exact children child mem
termination_by sizeOf nodes

end

end Markup

/-- The text of a document has no byte order mark in front. -/
theorem Element.parse_toXml_eq (e : Element) :
    Element.parse e.toXml = Markup.assemble (Markup.Token.scan (Markup.writeElement e)) := by
  obtain ⟨cs, starts⟩ := Markup.exists_writeElement e
  have unmarked : Markup.withoutMark (Markup.writeElement e) = Markup.writeElement e := by
    rw [starts]
    rfl
  rw [Element.parse, Element.toXml, String.toList_ofList, unmarked]

/-- A document with legible tags is read back. -/
theorem Element.parse_toXml_of_legible {e : Element}
    (legible : e.All fun f => f.IsTagged ∧ f.IsLegible) :
    Element.parse e.toXml = .ok e.normalise := by
  have read := Markup.Assembly.read_legible e legible .start []
  rw [List.append_nil, Markup.Assembly.read] at read
  rw [Element.parse_toXml_eq, Markup.assemble, read]
  change Except.bind (Markup.Assembly.read _ []) _ = _
  rw [Markup.Assembly.read_nil]
  rfl

/-- A document that is read back is legible, if its names and keys are as tags have them. -/
theorem Element.all_isLegible_of_parse_toXml {e : Element} (tagged : e.All IsTagged)
    (parses : Element.parse e.toXml = .ok e.normalise) : e.All IsLegible := by
  rw [Element.parse_toXml_eq] at parses
  obtain ⟨before, inner, after, tokens, misc, spells, -⟩ := Markup.assemble_eq_ok_iff.mp parses
  obtain rfl : before = [] := by
    cases before with
    | nil => rfl
    | cons token others =>
        obtain ⟨cs, text, starts⟩ :=
          Markup.exists_head?_writeElement (Element.all_iff.mp tagged).1.name
        have first : Markup.Token.next (Markup.writeElement e) =
            some ((Markup.bracketed cs).1, (Markup.bracketed cs).2) := by
          rw [text]
          rfl
        rw [Markup.scan_of_next first] at tokens
        obtain ⟨rfl, -⟩ := List.cons.inj tokens
        exact absurd (misc _ List.mem_cons_self) (Markup.not_isMisc_bracketed starts)
  have pieces : Markup.textPieces (Markup.writeElement e ++ []) =
      e.normalise.pieces ++ after.flatMap Markup.Token.pieces := by
    rw [List.append_nil, Markup.textPieces, tokens, List.nil_append, List.flatMap_append,
      spells.pieces]
  exact (Markup.legible_of_textPieces e tagged _ _ pieces).1

/-- **Documents that were read, written again.** What was read is read back as the normalised
document if and only if all of its tags can be told from what stands around them. -/
theorem Element.parse_toXml_iff_legible {text : String} {e : Element}
    (parses : Element.parse text = .ok e) :
    Element.parse e.toXml = .ok e.normalise ↔ e.All IsLegible := by
  have tagged := Element.all_isTagged_of_parse parses
  constructor
  · exact Element.all_isLegible_of_parse_toXml tagged
  · intro legible
    exact Element.parse_toXml_of_legible fun address f found =>
      ⟨tagged address f found, legible address f found⟩

/-- A slash at the end of a name does no harm if there are no children. -/
theorem Element.parse_toXml_slash_alone :
    Element.parse "<a//>" = .ok ⟨"a/", [], []⟩ ∧
      Element.parse (Element.toXml ⟨"a/", [], []⟩) = .ok ⟨"a/", [], []⟩ := by
  have tagged : Markup.Assembly.tagElement ['a', '/'] = .ok ⟨"a/", [], []⟩ :=
    @Markup.tagElement_writeTag "a/" [] (by simp [Markup.isSpace]) (by simp) .nil
  have parses : Element.parse "<a//>" = .ok ⟨"a/", [], []⟩ := by
    have cut : Markup.Token.next (Markup.withoutMark "<a//>".toList) =
        some (.emptyTag ['a', '/'], []) := by decide
    refine Markup.assemble_eq_ok_iff.mpr ⟨[], [.emptyTag ['a', '/']], [], ?_, by simp, ?_, by simp⟩
    · rw [Markup.scan_of_next cut, Markup.Token.scan]
      rfl
    · exact .empty tagged
  have legible : Element.All IsLegible ⟨"a/", [], []⟩ :=
    Element.all_iff.mpr ⟨⟨by rfl, fun _ => by decide, by simp⟩, by simp⟩
  exact ⟨parses, (Element.parse_toXml_iff_legible parses).mpr legible⟩

/-- In front of children, it makes a whole element of the opening tag, and their text is stray. -/
theorem Element.parse_toXml_slash_around :
    Element.parse "<a/ >x</a/>" = .ok ⟨"a/", [], [.text "x"]⟩ ∧
      Element.parse (Element.toXml ⟨"a/", [], [.text "x"]⟩) = .error .strayText := by
  have tagged : Markup.Assembly.tagElement ['a', '/', ' '] = .ok ⟨"a/", [], []⟩ := by
    have blank : Markup.readAttributes (Markup.tagRest ['a', '/', ' ']) = .ok [] :=
      Markup.readAttributesFrom_of_blank (by decide)
    rw [Markup.Assembly.tagElement, blank]
    rfl
  constructor
  · have opens : Markup.Token.next (Markup.withoutMark "<a/ >x</a/>".toList) =
        some (.openTag ['a', '/', ' '], ['x', '<', '/', 'a', '/', '>']) := by decide
    have spells : Markup.Token.next ['x', '<', '/', 'a', '/', '>'] =
        some (.text ['x'], ['<', '/', 'a', '/', '>']) := by decide
    have closes : Markup.Token.next ['<', '/', 'a', '/', '>'] =
        some (.closeTag ['a', '/'], []) := by decide
    refine Markup.assemble_eq_ok_iff.mpr
      ⟨[], [.openTag ['a', '/', ' '], .text ['x'], .closeTag ['a', '/']], [], ?_, by simp, ?_,
        by simp⟩
    · rw [Markup.scan_of_next opens, Markup.scan_of_next spells, Markup.scan_of_next closes,
        Markup.Token.scan]
      rfl
    · exact .nested tagged (.text rfl rfl .nil)
  · have opens : Markup.Token.next (Markup.writeElement ⟨"a/", [], [.text "x"]⟩) =
        some (.emptyTag ['a'], ['x', '<', '/', 'a', '/', '>']) := by decide
    have spells : Markup.Token.next ['x', '<', '/', 'a', '/', '>'] =
        some (.text ['x'], ['<', '/', 'a', '/', '>']) := by decide
    rw [Element.parse_toXml_eq, Markup.scan_of_next opens, Markup.scan_of_next spells]
    have whole : Markup.Outline.fault? {} (.emptyTag ['a']) = none := by
      have bare : Markup.readAttributes (Markup.tagRest ['a']) = .ok [] :=
        Markup.readAttributesFrom_of_blank (by decide)
      rw [Markup.Outline.fault?, Markup.Outline.tagFault?, bare]
      rfl
    refine Markup.assemble_eq_error_iff.mpr ?_
    rw [Markup.Outline.faults, whole, Markup.Outline.faults]
    rfl

end DocPipeline
