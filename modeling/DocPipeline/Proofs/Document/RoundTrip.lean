import DocPipeline.Proofs.Document.Address
import DocPipeline.Proofs.Document.Tag

/-!
# Documents read back

What is read of the text of a document. Neighbouring texts are written without anything between
them and come back as one; blank texts do not come back; all else does, as long as all tags can be
told from what stands around them. That is so if names are plain and no element has two attributes
with one key.

## Main definitions

* `Element.normalise`: a document with its texts as reading leaves them.
* `Element.isPlain`: documents with plain names and distinct keys.
* `Element.IsTagged`: an element with a name and with keys as tags have them.
* `Element.IsLegible`: an element whose tag can be told from what stands around it.
* `Markup.Assembly.read`: a document read in part, after some more text.

## Main results

* `Markup.Assembly.read_legible`, `Markup.Assembly.read_nodes`: what written elements and lists of
  nodes do to a document read in part, wherever they stand.
* `Element.parse_toXml`: the text of a document with plain names is read as the normalised document.
-/

namespace DocPipeline

/-! ### Normal documents -/

/-- A text that is blank. -/
def Node.isBlankText : Node → Bool
  | .element _ => false
  | .text content => Text.isBlank content

/-- A list of nodes with a text in front of it, joined with the text that stands there. -/
def joinText (content : String) : List Node → List Node
  | .text next :: others => .text (content ++ next) :: others
  | others => .text content :: others

/-- A list of nodes in which all neighbouring texts are joined. -/
def joinTexts : List Node → List Node
  | [] => []
  | .element e :: rest => .element e :: joinTexts rest
  | .text content :: rest => joinText content (joinTexts rest)

/-- What is left of a list of nodes: neighbouring texts are joined, and what is blank then is
dropped. -/
def tidied (nodes : List Node) : List Node := (joinTexts nodes).filter (!·.isBlankText)

mutual

/-- A document with its texts as reading leaves them, at every depth. -/
def Element.normalise : Element → Element
  | ⟨name, attributes, children⟩ => ⟨name, attributes, tidied (normaliseNodes children)⟩

/-- A list of nodes with the elements in it normalised. -/
def normaliseNodes : List Node → List Node
  | [] => []
  | .text content :: rest => .text content :: normaliseNodes rest
  | .element e :: rest => .element e.normalise :: normaliseNodes rest

end

mutual

/-- All names and keys of a document are plain, and no element has two attributes with one key. -/
def Element.isPlain : Element → Bool
  | ⟨name, attributes, children⟩ =>
    Markup.isPlain name && attributes.all (Markup.isPlain ·.1) &&
      decide (attributes.map Prod.fst).Nodup && isPlainNodes children

/-- All names and keys of a list of nodes are plain. -/
def isPlainNodes : List Node → Bool
  | [] => true
  | .text _ :: rest => isPlainNodes rest
  | .element e :: rest => e.isPlain && isPlainNodes rest

end

/-- An element with a name and with keys as tags have them. If it has children, its name can stand
alone in a closing tag. -/
structure Element.IsTagged (e : Element) : Prop where
  name : Markup.IsName e.name
  keys : ∀ pair ∈ e.attributes, Markup.IsKey pair.1
  distinct : (e.attributes.map Prod.fst).Nodup
  closes : e.children ≠ [] → Markup.IsBalanced e.name.toList

/-- An element whose tag can be told from what stands around it: it ends at its own bracket, and it
is neither taken for a closing tag nor for the tag of an element without children. -/
structure Element.IsLegible (e : Element) : Prop where
  /-- In the name and the attributes as they are written, quotes pair up, and closing brackets stand
  within quotes only. -/
  ends : Markup.IsBalanced (Markup.writeTag e.name e.attributes)
  /-- There is a name or an attribute if there are no children. -/
  starts : e.children = [] → Markup.writeTag e.name e.attributes ≠ []
  /-- Without attributes and with children, the name does not end in a slash. -/
  opens : e.children ≠ [] → (Markup.writeTag e.name e.attributes).getLast? ≠ some '/'

/-- An element with a plain name and with plain, distinct keys. -/
theorem Element.isTagged_of_isPlain {e : Element} (plainName : Markup.isPlain e.name = true)
    (plainKeys : ∀ pair ∈ e.attributes, Markup.isPlain pair.1 = true)
    (distinct : (e.attributes.map Prod.fst).Nodup) : e.IsTagged ∧ e.IsLegible := by
  constructor
  · exact ⟨Markup.isName_of_isPlain plainName,
      fun pair mem => Markup.isKey_of_isPlain (plainKeys pair mem), distinct,
      fun _ => Markup.isBalanced_of_isPlain plainName⟩
  · exact ⟨Markup.isBalanced_writeTag plainName plainKeys,
      fun _ => Markup.writeTag_ne_nil plainName e.attributes,
      fun _ => Markup.getLast?_writeTag_of_isPlain plainName e.attributes⟩

mutual

theorem Element.all_of_isPlain : (e : Element) → e.isPlain = true →
    e.All fun f => f.IsTagged ∧ f.IsLegible
  | ⟨name, attributes, children⟩, plain => by
      simp only [Element.isPlain, Bool.and_eq_true, List.all_eq_true, decide_eq_true_eq] at plain
      obtain ⟨⟨⟨plainName, plainKeys⟩, distinct⟩, plainNodes⟩ := plain
      exact Element.all_iff.mpr ⟨Element.isTagged_of_isPlain plainName plainKeys distinct,
        allNodes_of_isPlain children plainNodes⟩

theorem allNodes_of_isPlain : (nodes : List Node) → isPlainNodes nodes = true →
    ∀ child, .element child ∈ nodes → child.All fun f => f.IsTagged ∧ f.IsLegible
  | [], _ => by simp
  | .text content :: rest, plain => by
      rw [isPlainNodes] at plain
      intro child mem
      exact allNodes_of_isPlain rest plain child (by simpa using mem)
  | .element e :: rest, plain => by
      rw [isPlainNodes, Bool.and_eq_true] at plain
      intro child mem
      rcases List.mem_cons.mp mem with same | mem
      · rw [Node.element.inj same]
        exact Element.all_of_isPlain e plain.1
      · exact allNodes_of_isPlain rest plain.2 child mem

end

/-- Two texts in front of a list of nodes are one. -/
theorem joinText_joinText (first second : String) (nodes : List Node) :
    joinText first (joinText second nodes) = joinText (first ++ second) nodes := by
  rcases nodes with _ | ⟨e | next, others⟩
  · rfl
  · rfl
  · rw [joinText, joinText, joinText, String.append_assoc]

theorem tidied_text_text (first second : String) (rest : List Node) :
    tidied (.text first :: .text second :: rest) = tidied (.text (first ++ second) :: rest) := by
  rw [tidied, joinTexts, joinTexts, joinText_joinText]
  rfl

/-- A text that nothing is joined with. -/
def ownText (content : String) : List Node :=
  if Text.isBlank content then [] else [.text content]

theorem tidied_text (content : String) : tidied [.text content] = ownText content := by
  rw [tidied, joinTexts, joinTexts, joinText, ownText]
  · cases blank : Text.isBlank content <;> simp [Node.isBlankText, blank]
  · nofun

/-- An element ends a text. -/
theorem tidied_text_element (content : String) (e : Element) (rest : List Node) :
    tidied (.text content :: .element e :: rest) =
      ownText content ++ .element e :: tidied rest := by
  rw [tidied, joinTexts, joinTexts, joinText, ownText]
  · cases blank : Text.isBlank content <;> simp [Node.isBlankText, blank, tidied]
  · nofun

/-- The empty text makes no difference. -/
theorem tidied_empty (rest : List Node) : tidied (.text "" :: rest) = tidied rest := by
  have blank : Text.isBlank "" = true := rfl
  rw [tidied, joinTexts, tidied]
  rcases joinTexts rest with _ | ⟨e | next, others⟩
  · simp [joinText, Node.isBlankText, blank]
  · simp [joinText, Node.isBlankText, blank]
  · rw [joinText, String.empty_append]

namespace Markup

open Token (next scan)

/-! ### Cutting written text -/

/-- Scanning starts with the first token. -/
theorem scan_of_next {cs rest : List Char} {token : Token} (first : next cs = some (token, rest)) :
    scan cs = token :: scan rest := by
  rw [scan]
  split
  · next none => rw [first] at none; cases none
  · next other otherRest some =>
      rw [first] at some
      obtain ⟨rfl, rfl⟩ : token = other ∧ rest = otherRest := by simpa using some
      rfl

/-- Nothing is written for the empty text only, and it is blank. -/
theorem ownText_of_escape {content : String} (nothing : escape content.toList = []) :
    ownText content = [] := by
  have back := unescape?_escape content.toList
  rw [nothing] at back
  have empty : content.toList = [] := (Option.some.inj back).symm
  have blank : Text.isBlank content = true := by
    rw [Text.isBlank, empty]
    rfl
  rw [ownText, if_pos blank]

/-- A run of text ends at the next bracket. -/
theorem next_text {c : Char} {cs : List Char} (spared : ∀ d ∈ c :: cs, isMark d = false)
    (rest : List Char) :
    next (c :: cs ++ '<' :: rest) = some (.text (c :: cs), '<' :: rest) := by
  have free : ∀ d ∈ c :: cs, d ≠ '<' := by
    rintro d mem rfl
    have := spared _ mem
    contradiction
  have inText : ∀ d ∈ cs, decide (d ≠ '<') = true := fun d mem =>
    decide_eq_true (free d (List.mem_cons_of_mem _ mem))
  have bracketEnds : decide ('<' ≠ '<') = false := by decide
  obtain ⟨text, behind⟩ := takeWhile_append_cons (· ≠ '<') inText bracketEnds rest
  rw [List.cons_append, next, text, behind]
  exact fun same => free c List.mem_cons_self same

/-- What does not start like other markup is a tag that opens something. -/
theorem bracketed_of_head {cs : List Char} (nonempty : cs ≠ [])
    (starts : ∀ c, cs.head? = some c → c ≠ '!' ∧ c ≠ '?' ∧ c ≠ '/') :
    bracketed cs = opening cs := by
  obtain _ | ⟨c, cs⟩ := cs
  · exact absurd rfl nonempty
  · obtain ⟨noBang, noQuestion, noSlash⟩ := starts c rfl
    rw [bracketed]
    · nofun
    · rintro cs same
      exact noBang (List.cons.inj same).1
    · rintro cs same
      exact noQuestion (List.cons.inj same).1
    · rintro cs same
      exact noSlash (List.cons.inj same).1

variable {name : String} {attributes : List (String × String)}

/-- A written tag does not start like other markup. -/
theorem head?_writeTag (named : IsName name) {c : Char}
    (first : (writeTag name attributes).head? = some c) : c ≠ '!' ∧ c ≠ '?' ∧ c ≠ '/' := by
  rw [writeTag, List.head?_append] at first
  cases own : name.toList.head? with
  | some d =>
      rw [own] at first
      obtain rfl := Option.some.inj first
      exact named.starts d own
  | none =>
      rw [own] at first
      cases attributes with
      | nil => cases first
      | cons pair attributes =>
          obtain rfl := Option.some.inj first
          decide

/-- A written tag, if there is anything in it, is a tag that opens something. -/
theorem bracketed_writeTag (named : IsName name) (nonempty : writeTag name attributes ≠ [])
    (rest : List Char) :
    bracketed (writeTag name attributes ++ rest) = opening (writeTag name attributes ++ rest) := by
  refine bracketed_of_head (by simp [nonempty]) fun c first => ?_
  obtain ⟨d, cs, chars⟩ := List.exists_cons_of_ne_nil nonempty
  rw [chars] at first
  exact head?_writeTag named (by rw [chars]; exact first)

/-- A written tag opens its element. -/
theorem next_openTag (named : IsName name) (balanced : IsBalanced (writeTag name attributes))
    (opens : (writeTag name attributes).getLast? ≠ some '/') (rest : List Char) :
    next ('<' :: (writeTag name attributes ++ '>' :: rest)) =
      some (.openTag (writeTag name attributes), rest) := by
  have tag : bracketed (writeTag name attributes ++ '>' :: rest) =
      opening (writeTag name attributes ++ '>' :: rest) := by
    by_cases empty : writeTag name attributes = []
    · rw [empty]
      rfl
    · exact bracketed_writeTag named empty _
  rw [next, tag, opening, splitTag?_of_isBalanced balanced]
  simp [opens]

/-- A written tag with a slash is a whole element. -/
theorem next_emptyTag (named : IsName name) (balanced : IsBalanced (writeTag name attributes))
    (starts : writeTag name attributes ≠ []) (rest : List Char) :
    next ('<' :: (writeTag name attributes ++ '/' :: '>' :: rest)) =
      some (.emptyTag (writeTag name attributes), rest) := by
  have slashed : IsBalanced (writeTag name attributes ++ ['/']) := balanced.append (by rfl)
  have cut := splitTag?_of_isBalanced slashed rest
  rw [List.append_assoc, List.singleton_append] at cut
  rw [next, bracketed_writeTag named starts, opening, cut]
  simp

/-- The name in a closing tag. -/
theorem closedName_of_noSpace {cs : List Char} (noSpace : ∀ c ∈ cs, isSpace c = false) :
    closedName cs = cs := by
  rw [closedName]
  split
  · rfl
  · have kept : cs.reverse.dropWhile isSpace = cs.reverse := by
      rw [List.dropWhile_eq_self_iff]
      intro nonempty
      rw [noSpace _ (List.mem_reverse.mp (List.getElem_mem _))]
      exact Bool.false_ne_true
    rw [kept, List.reverse_reverse]

/-- A closing tag names its element. -/
theorem next_closeTag (noSpace : ∀ c ∈ name.toList, isSpace c = false)
    (balanced : IsBalanced name.toList) (rest : List Char) :
    next ('<' :: '/' :: (name.toList ++ '>' :: rest)) = some (.closeTag name.toList, rest) := by
  rw [next, bracketed, closing, splitTag?_of_isBalanced balanced]
  simp only [closedName_of_noSpace noSpace]

/-! ### Reading on -/

/-- An open element with more nodes; its children are kept latest first. -/
def taking (e : Element) (nodes : List Node) : Element :=
  ⟨e.name, e.attributes, nodes.reverse ++ e.children⟩

theorem taking_nil (e : Element) : taking e [] = e := by
  cases e with
  | mk name attributes children => rfl

theorem taking_taking (e : Element) (first second : List Node) :
    taking (taking e first) second = taking e (first ++ second) := by
  simp [taking]

namespace Assembly

/-- A document read in part, after some more text. -/
def read (assembly : Assembly) (cs : List Char) : Except DocumentFault Assembly :=
  (scan cs).foldlM step assembly

theorem read_nil (assembly : Assembly) : assembly.read [] = .ok assembly := by
  rw [read, scan]
  rfl

/-- Reading goes on behind the first token. -/
theorem read_of_next {cs rest : List Char} {token : Token}
    (first : next cs = some (token, rest)) (assembly : Assembly) :
    assembly.read cs = (assembly.step token).bind (·.read rest) := by
  rw [read, scan_of_next first]
  rfl

variable (parent : Element) (opened : List Element) (root : Option Element)

/-- Escaped text, up to the next bracket, goes into the innermost open element unless it is
blank. -/
theorem read_text (content : String) (rest : List Char) :
    read ⟨parent :: opened, root⟩ (escape content.toList ++ '<' :: rest) =
      read ⟨taking parent (ownText content) :: opened, root⟩ ('<' :: rest) := by
  cases chars : escape content.toList with
  | nil => rw [ownText_of_escape chars, taking_nil, List.nil_append]
  | cons c cs =>
      have spared : ∀ d ∈ c :: cs, isMark d = false := by
        intro d mem
        rw [← chars] at mem
        exact escape_spares mem
      rw [read_of_next (next_text spared rest), step, ← chars, unescape?_escape]
      cases blank : content.toList.all Text.isBlankChar with
      | true => simp [ownText, Text.isBlank, blank, Except.bind, taking_nil]
      | false => simp [ownText, Text.isBlank, blank, addText, Except.bind, taking]

/-- A closing tag ends its element. -/
theorem read_closeTag (noSpace : ∀ c ∈ parent.name.toList, isSpace c = false)
    (balanced : IsBalanced parent.name.toList) (rest : List Char) :
    read ⟨parent :: opened, root⟩ ('<' :: '/' :: (parent.name.toList ++ '>' :: rest)) =
      (attach ⟨opened, root⟩ { parent with children := parent.children.reverse }).bind
        (·.read rest) := by
  rw [read_of_next (next_closeTag noSpace balanced rest), step, closeElement,
    String.ofList_toList]
  simp

end Assembly

/-- The text of an element without children. -/
theorem writeElement_nil (name : String) (attributes : List (String × String)) (rest : List Char) :
    writeElement ⟨name, attributes, []⟩ ++ rest =
      '<' :: (writeTag name attributes ++ '/' :: '>' :: rest) := by
  simp [writeElement, writeTag]

/-- The text of an element with children. -/
theorem writeElement_cons (name : String) (attributes : List (String × String)) (first : Node)
    (others : List Node) (rest : List Char) :
    writeElement ⟨name, attributes, first :: others⟩ ++ rest =
      '<' :: (writeTag name attributes ++ '>' ::
        (writeNodes (first :: others) ++ '<' :: '/' :: (name.toList ++ '>' :: rest))) := by
  simp [writeElement, writeTag]

/-- The text of an element starts with a bracket. -/
theorem exists_writeElement (e : Element) : ∃ cs, writeElement e = '<' :: cs := by
  obtain ⟨name, attributes, _ | ⟨first, others⟩⟩ := e
  · exact ⟨_, by simpa using writeElement_nil name attributes []⟩
  · exact ⟨_, by simpa using writeElement_cons name attributes first others []⟩

/-- Nothing is written for the empty text. -/
theorem escape_empty_append (cs : List Char) : escape "".toList ++ cs = cs := by
  rw [String.toList_empty]
  rfl

mutual

/-- **The text of an element** with legible tags adds the normalised element to whatever is open. -/
theorem Assembly.read_legible (e : Element) (legible : e.All fun f => f.IsTagged ∧ f.IsLegible)
    (assembly : Assembly) (rest : List Char) :
    assembly.read (writeElement e ++ rest) =
      (assembly.attach e.normalise).bind (·.read rest) := by
  obtain ⟨⟨tagged, own⟩, below⟩ := Element.all_iff.mp legible
  match e with
  | ⟨name, attributes, []⟩ =>
      rw [writeElement_nil, read_of_next (next_emptyTag tagged.name own.ends (own.starts rfl) rest),
        step, tagElement_writeTag tagged.name.noSpace tagged.keys tagged.distinct]
      rfl
  | ⟨name, attributes, first :: others⟩ =>
      have children := read_nodes (first :: others) below "" ⟨name, attributes, []⟩
        assembly.opened assembly.root ('/' :: (name.toList ++ '>' :: rest))
      rw [escape_empty_append] at children
      rw [writeElement_cons, read_of_next (next_openTag tagged.name own.ends (own.opens nofun) _),
        step, tagElement_writeTag tagged.name.noSpace tagged.keys tagged.distinct]
      simp only [bind, Except.bind]
      rw [children, tidied_empty]
      have closes := read_closeTag (taking ⟨name, attributes, []⟩
        (tidied (normaliseNodes (first :: others)))) assembly.opened assembly.root
        tagged.name.noSpace (tagged.closes nofun) rest
      rw [Element.normalise]
      refine closes.trans ?_
      simp [taking, Except.bind]
termination_by sizeOf e

/-- **The text of a list of nodes**, with some text in front of it that is still to be read, adds
the tidied list to the innermost open element. -/
theorem Assembly.read_nodes (nodes : List Node)
    (legible : ∀ child, .element child ∈ nodes →
      child.All fun f => f.IsTagged ∧ f.IsLegible)
    (pending : String) (parent : Element) (opened : List Element) (root : Option Element)
    (rest : List Char) :
    Assembly.read ⟨parent :: opened, root⟩
        (escape pending.toList ++ (writeNodes nodes ++ '<' :: rest)) =
      Assembly.read ⟨taking parent (tidied (.text pending :: normaliseNodes nodes)) :: opened, root⟩
        ('<' :: rest) := by
  match nodes with
  | [] => rw [writeNodes, normaliseNodes, tidied_text, List.nil_append, read_text]
  | .text content :: others =>
      have joined := read_nodes others
        (fun child mem => legible child (List.mem_cons_of_mem _ mem)) (pending ++ content) parent
        opened root rest
      rw [String.toList_append, escape_append, List.append_assoc] at joined
      rw [writeNodes, normaliseNodes, tidied_text_text, List.append_assoc, joined]
  | .element e :: others =>
      obtain ⟨cs, starts⟩ := exists_writeElement e
      have inFront := read_text parent opened root pending
        (cs ++ (writeNodes others ++ '<' :: rest))
      rw [← List.cons_append, ← starts] at inFront
      have behind := read_nodes others
        (fun child mem => legible child (List.mem_cons_of_mem _ mem)) ""
        (taking (taking parent (ownText pending)) [.element e.normalise]) opened root rest
      rw [tidied_empty, escape_empty_append] at behind
      rw [writeNodes, normaliseNodes, tidied_text_element, List.append_assoc, inFront,
        read_legible e (legible e List.mem_cons_self)]
      refine behind.trans ?_
      rw [taking_taking, taking_taking, List.singleton_append]
termination_by sizeOf nodes

end

/-- The text of an element with plain names adds the normalised element to whatever is open. -/
theorem Assembly.read_element (e : Element) (plain : e.isPlain = true) (assembly : Assembly)
    (rest : List Char) :
    assembly.read (writeElement e ++ rest) =
      (assembly.attach e.normalise).bind (·.read rest) :=
  read_legible e (e.all_of_isPlain plain) assembly rest

end Markup

/-- **Round trip.** Reading the text of a document gives the normalised document, as long as names
and keys are plain and no element has two attributes with one key. -/
theorem Element.parse_toXml (e : Element) (plain : e.isPlain = true) :
    Element.parse e.toXml = .ok e.normalise := by
  obtain ⟨cs, starts⟩ := Markup.exists_writeElement e
  have unmarked : Markup.withoutMark (Markup.writeElement e) = Markup.writeElement e := by
    rw [starts]
    rfl
  have read := Markup.Assembly.read_element e plain .start []
  rw [List.append_nil, Markup.Assembly.read] at read
  rw [Element.parse, Element.toXml, String.toList_ofList, unmarked, Markup.assemble, read]
  change Except.bind (Markup.Assembly.read _ []) _ = _
  rw [Markup.Assembly.read_nil]
  rfl

/-- A document with neighbouring texts, blank text, and special characters in its values. -/
def Element.crowded : Element :=
  ⟨"r", [("k", "a<\"b\""), ("l", "")],
    [.text "x", .text " & y", .element ⟨"b", [], [.text " "]⟩, .text ""]⟩

/-- It is read back with its texts joined and without the blank ones. -/
theorem Element.parse_toXml_crowded :
    Element.crowded.isPlain = true ∧
      Element.parse Element.crowded.toXml =
        .ok ⟨"r", [("k", "a<\"b\""), ("l", "")], [.text "x & y", .element ⟨"b", [], []⟩]⟩ := by
  have plain : Element.crowded.isPlain = true := by decide
  exact ⟨plain, (Element.parse_toXml Element.crowded plain).trans (by decide)⟩

end DocPipeline
