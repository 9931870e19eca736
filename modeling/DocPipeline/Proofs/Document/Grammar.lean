import DocPipeline.Proofs.Document.RoundTrip

/-!
# The grammar of documents

Reading keeps a stack of open elements and a place for the finished root. What it accepts can be
told without either: one well-nested element, with nothing but ignored markup and blank text around
it. And what it says of all other texts is the first thing that is wrong with one of their tokens,
for which it is enough to know the names of the open elements and whether an element was there
already; or else that the text ends too early.

## Main definitions

* `Markup.Token.IsMisc`: a token that may stand beside the element.
* `Markup.SpellsNodes`, `Markup.SpellsElement`: the tokens that spell nodes, and those that spell an
  element.
* `Markup.Assembly.Reads`: a document read in part, after some tokens.
* `Markup.Outline`: what is known of the tokens so far when a token is looked at.
* `Markup.Outline.faults`: what can be wrong with tokens, in order.

## Main results

* `Markup.SpellsElement.foldlM_step`: the tokens of an element put the element in its place.
* `Markup.Assembly.Reads.foldlM`: what is read in part is what the tokens so far spell.
* `Markup.assemble_eq_ok_iff`: the tokens from which a document is put together.
* `Markup.assemble_eq_error_iff`: what is wrong with other tokens.
* `Element.parse_iff_grammar`: what texts are read as.
-/

namespace DocPipeline

namespace Markup

/-! ### The grammar -/

/-- A token that may stand beside the element: ignored markup and blank text. -/
inductive Token.IsMisc : Token → Prop
  | ignored : IsMisc .ignored
  | text {raw content : List Char} (reads : unescape? raw = some content)
      (blank : content.all Text.isBlankChar = true) : IsMisc (.text raw)
  | cdata {content : List Char} (blank : content.all Text.isBlankChar = true) :
      IsMisc (.cdata content)

/-- Tokens that spell a list of nodes. Text that is not blank is kept as it is, and character data
in any case. -/
inductive SpellsNodes : List Token → List Node → Prop
  | nil : SpellsNodes [] []
  | ignored {rest nodes} (others : SpellsNodes rest nodes) : SpellsNodes (.ignored :: rest) nodes
  | blank {raw content rest nodes} (reads : unescape? raw = some content)
      (isBlank : content.all Text.isBlankChar = true) (others : SpellsNodes rest nodes) :
      SpellsNodes (.text raw :: rest) nodes
  | text {raw content rest nodes} (reads : unescape? raw = some content)
      (notBlank : content.all Text.isBlankChar = false) (others : SpellsNodes rest nodes) :
      SpellsNodes (.text raw :: rest) (.text (String.ofList content) :: nodes)
  | cdata {content rest nodes} (others : SpellsNodes rest nodes) :
      SpellsNodes (.cdata content :: rest) (.text (String.ofList content) :: nodes)
  | empty {tag name attributes rest nodes}
      (reads : Assembly.tagElement tag = .ok ⟨name, attributes, []⟩)
      (others : SpellsNodes rest nodes) :
      SpellsNodes (.emptyTag tag :: rest) (.element ⟨name, attributes, []⟩ :: nodes)
  | nested {tag name attributes inner children rest nodes}
      (reads : Assembly.tagElement tag = .ok ⟨name, attributes, []⟩)
      (content : SpellsNodes inner children) (others : SpellsNodes rest nodes) :
      SpellsNodes (.openTag tag :: (inner ++ .closeTag name.toList :: rest))
        (.element ⟨name, attributes, children⟩ :: nodes)

/-- Tokens that spell an element: a tag that is a whole element, or a tag, nodes, and the closing
tag of the name. -/
inductive SpellsElement : List Token → Element → Prop
  | empty {tag name attributes} (reads : Assembly.tagElement tag = .ok ⟨name, attributes, []⟩) :
      SpellsElement [.emptyTag tag] ⟨name, attributes, []⟩
  | nested {tag name attributes inner children}
      (reads : Assembly.tagElement tag = .ok ⟨name, attributes, []⟩)
      (content : SpellsNodes inner children) :
      SpellsElement (.openTag tag :: (inner ++ [.closeTag name.toList]))
        ⟨name, attributes, children⟩

/-- One list of nodes behind another. -/
theorem SpellsNodes.append {first second : List Token} {nodes others : List Node}
    (spells : SpellsNodes first nodes) (more : SpellsNodes second others) :
    SpellsNodes (first ++ second) (nodes ++ others) := by
  induction spells with
  | nil => exact more
  | ignored _ ih => exact .ignored ih
  | blank reads isBlank _ ih => exact .blank reads isBlank ih
  | text reads notBlank _ ih => exact .text reads notBlank ih
  | cdata _ ih => exact .cdata ih
  | empty reads _ ih => exact .empty reads ih
  | nested reads content _ _ ih =>
      rw [List.cons_append, List.append_assoc]
      exact .nested reads content ih

/-- An element is a node. -/
theorem SpellsElement.node {tokens : List Token} {e : Element} (spells : SpellsElement tokens e) :
    SpellsNodes tokens [.element e] := by
  cases spells with
  | empty reads => exact .empty reads .nil
  | nested reads content => exact .nested reads content .nil

/-! ### Spelled tokens are read -/

namespace Assembly

/-- An element that a tag starts has the name of the tag, and no children. -/
theorem tagElement_eq_ok {tag : List Char} {e : Element} (reads : tagElement tag = .ok e) :
    e.name = String.ofList (tagName tag) ∧ e.children = [] := by
  rw [tagElement] at reads
  split at reads
  · obtain rfl := Except.ok.inj reads
    exact ⟨rfl, rfl⟩
  · cases reads

/-- It has the attributes of the tag. -/
theorem readAttributes_of_tagElement {tag : List Char} {e : Element}
    (reads : tagElement tag = .ok e) : readAttributes (tagRest tag) = .ok e.attributes := by
  rw [tagElement] at reads
  split at reads
  · next read =>
      obtain rfl := Except.ok.inj reads
      exact read
  · cases reads

/-- Tokens that may stand beside the element leave nothing behind there. -/
theorem foldlM_misc {tokens : List Token} (misc : ∀ token ∈ tokens, token.IsMisc)
    (root : Option Element) : tokens.foldlM step ⟨[], root⟩ = .ok ⟨[], root⟩ := by
  induction tokens with
  | nil => rfl
  | cons token tokens ih =>
      have same : step ⟨[], root⟩ token = .ok ⟨[], root⟩ := by
        cases misc token List.mem_cons_self with
        | ignored => rfl
        | text reads blank => simp [step, reads, blank]
        | cdata blank => simp [step, addText, blank]
      rw [List.foldlM_cons, same]
      exact ih fun other mem => misc other (List.mem_cons_of_mem _ mem)

end Assembly

/-- Reading on behind a token that leads from one state to another. -/
theorem foldlM_of_step {assembly next : Assembly} {token : Token} (tokens : List Token)
    (steps : assembly.step token = .ok next) :
    (token :: tokens).foldlM Assembly.step assembly = tokens.foldlM Assembly.step next := by
  rw [List.foldlM_cons, steps]
  rfl

/-- Reading on behind tokens that lead from one state to another. -/
theorem foldlM_of_foldlM {assembly next : Assembly} {first : List Token} (second : List Token)
    (leads : first.foldlM Assembly.step assembly = .ok next) :
    (first ++ second).foldlM Assembly.step assembly = second.foldlM Assembly.step next := by
  rw [List.foldlM_append, leads]
  rfl

/-- An open element with one node more. -/
theorem taking_cons (e : Element) (node : Node) (nodes : List Node) :
    taking (taking e [node]) nodes = taking e (node :: nodes) :=
  taking_taking e [node] nodes

/-- The closing tag of an open element that has taken nodes puts the element in its place. -/
theorem step_closeTag (name : String) (attributes : List (String × String)) (nodes : List Node)
    (opened : List Element) (root : Option Element) :
    Assembly.step ⟨taking ⟨name, attributes, []⟩ nodes :: opened, root⟩ (.closeTag name.toList) =
      Assembly.attach ⟨opened, root⟩ ⟨name, attributes, nodes⟩ := by
  simp [Assembly.step, Assembly.closeElement, taking]

/-- **The tokens of nodes** put the nodes into the innermost open element. -/
theorem SpellsNodes.foldlM_step {tokens : List Token} {nodes : List Node}
    (spells : SpellsNodes tokens nodes) (parent : Element) (opened : List Element)
    (root : Option Element) :
    tokens.foldlM Assembly.step ⟨parent :: opened, root⟩ =
      .ok ⟨taking parent nodes :: opened, root⟩ := by
  induction spells generalizing parent opened with
  | nil =>
      rw [taking_nil]
      rfl
  | ignored _ ih => exact ih parent opened
  | @blank raw _ _ _ reads isBlank _ ih =>
      have steps : Assembly.step ⟨parent :: opened, root⟩ (.text raw) =
          .ok ⟨parent :: opened, root⟩ := by
        simp [Assembly.step, reads, isBlank]
      rw [foldlM_of_step _ steps, ih]
  | @text raw content _ _ reads notBlank _ ih =>
      have steps : Assembly.step ⟨parent :: opened, root⟩ (.text raw) =
          .ok ⟨taking parent [.text (String.ofList content)] :: opened, root⟩ := by
        simp [Assembly.step, Assembly.addText, reads, notBlank, taking]
      rw [foldlM_of_step _ steps, ih, taking_cons]
  | @cdata content _ _ _ ih =>
      have steps : Assembly.step ⟨parent :: opened, root⟩ (.cdata content) =
          .ok ⟨taking parent [.text (String.ofList content)] :: opened, root⟩ := rfl
      rw [foldlM_of_step _ steps, ih, taking_cons]
  | @empty tag name attributes _ _ reads _ ih =>
      have steps : Assembly.step ⟨parent :: opened, root⟩ (.emptyTag tag) =
          .ok ⟨taking parent [.element ⟨name, attributes, []⟩] :: opened, root⟩ := by
        rw [Assembly.step, reads]
        rfl
      rw [foldlM_of_step _ steps, ih, taking_cons]
  | @nested tag name attributes _ children _ _ reads _ _ content others =>
      have opens : Assembly.step ⟨parent :: opened, root⟩ (.openTag tag) =
          .ok ⟨⟨name, attributes, []⟩ :: parent :: opened, root⟩ := by
        rw [Assembly.step, reads]
        rfl
      have closes : Assembly.step
          ⟨taking ⟨name, attributes, []⟩ children :: parent :: opened, root⟩
            (.closeTag name.toList) =
          .ok ⟨taking parent [.element ⟨name, attributes, children⟩] :: opened, root⟩ :=
        step_closeTag name attributes children (parent :: opened) root
      rw [foldlM_of_step _ opens, foldlM_of_foldlM _ (content _ _), foldlM_of_step _ closes, others,
        taking_cons]

/-- **The tokens of an element** put the element in its place. -/
theorem SpellsElement.foldlM_step {tokens : List Token} {e : Element}
    (spells : SpellsElement tokens e) (assembly : Assembly) :
    tokens.foldlM Assembly.step assembly = assembly.attach e := by
  cases spells with
  | @empty tag name attributes reads =>
      have steps : assembly.step (.emptyTag tag) = assembly.attach ⟨name, attributes, []⟩ := by
        rw [Assembly.step, reads]
        rfl
      rw [List.foldlM_cons, steps]
      exact bind_pure _
  | @nested tag name attributes inner children reads content =>
      have opens : assembly.step (.openTag tag) =
          .ok { assembly with opened := ⟨name, attributes, []⟩ :: assembly.opened } := by
        rw [Assembly.step, reads]
        rfl
      rw [foldlM_of_step _ opens, foldlM_of_foldlM _ (content.foldlM_step _ _ _), List.foldlM_cons,
        step_closeTag]
      exact bind_pure _

/-! ### What is read is spelled -/

/-- A document read in part, after some tokens: they may stand in front of the element, or spell it
with what may stand around it, or lead into an element that is still open and spell the nodes in
it. -/
inductive Assembly.Reads : List Token → Assembly → Prop
  | before {tokens} (misc : ∀ token ∈ tokens, token.IsMisc) : Reads tokens ⟨[], none⟩
  | behind {before inner after e} (first : ∀ token ∈ before, token.IsMisc)
      (spells : SpellsElement inner e) (last : ∀ token ∈ after, token.IsMisc) :
      Reads (before ++ inner ++ after) ⟨[], some e⟩
  | within {outer tag name attributes inner nodes opened root}
      (around : Reads outer ⟨opened, root⟩)
      (reads : tagElement tag = .ok ⟨name, attributes, []⟩) (spells : SpellsNodes inner nodes) :
      Reads (outer ++ .openTag tag :: inner) ⟨taking ⟨name, attributes, []⟩ nodes :: opened, root⟩

namespace Assembly.Reads

variable {tokens inner : List Token} {assembly next : Assembly}

/-- Nodes are read where an element is open. -/
theorem nodes {parent : Element} {opened : List Element} {root : Option Element}
    (reads : Reads tokens ⟨parent :: opened, root⟩) {nodes : List Node}
    (spells : SpellsNodes inner nodes) :
    Reads (tokens ++ inner) ⟨taking parent nodes :: opened, root⟩ := by
  cases reads with
  | @within outer tag name attributes first before _ _ around tagged content =>
      rw [taking_taking, List.append_assoc, List.cons_append]
      exact .within around tagged (content.append spells)

/-- Tokens that may stand beside the element are read where no element is open. -/
theorem misc {root : Option Element} (reads : Reads tokens ⟨[], root⟩) {token : Token}
    (misc : token.IsMisc) : Reads (tokens ++ [token]) ⟨[], root⟩ := by
  have also {others : List Token} (all : ∀ other ∈ others, other.IsMisc) :
      ∀ other ∈ others ++ [token], other.IsMisc := by
    intro other mem
    rcases List.mem_append.mp mem with mem | mem
    · exact all other mem
    · exact List.mem_singleton.mp mem ▸ misc
  cases reads with
  | before all => exact .before (also all)
  | behind first spells last =>
      rw [List.append_assoc]
      exact .behind first spells (also last)

/-- An element is read where there is a place for it. -/
theorem element (reads : Reads tokens assembly) {e : Element} (spells : SpellsElement inner e)
    (attaches : assembly.attach e = .ok next) : Reads (tokens ++ inner) next := by
  obtain ⟨_ | ⟨parent, opened⟩, root⟩ := assembly
  · cases reads with
    | before all =>
        obtain rfl := Except.ok.inj attaches
        have read : Reads (tokens ++ inner ++ []) ⟨[], some e⟩ := .behind all spells nofun
        rwa [List.append_nil] at read
    | behind first other last => cases attaches
  · obtain rfl := Except.ok.inj attaches
    exact reads.nodes spells.node

/-- Ignored markup and blank text are read anywhere. -/
theorem unmoved (reads : Reads tokens assembly) {token : Token} (misc : token.IsMisc)
    (nothing : SpellsNodes [token] []) : Reads (tokens ++ [token]) assembly := by
  obtain ⟨_ | ⟨parent, opened⟩, root⟩ := assembly
  · exact reads.misc misc
  · have read := reads.nodes nothing
    rwa [taking_nil] at read

/-- Text is read where an element is open, or where it may stand beside the element. -/
theorem text (reads : Reads tokens assembly) {token : Token} {content : List Char}
    (spells : SpellsNodes [token] [.text (String.ofList content)])
    (misc : content.all Text.isBlankChar = true → token.IsMisc)
    (adds : assembly.addText content = .ok next) : Reads (tokens ++ [token]) next := by
  obtain ⟨_ | ⟨parent, opened⟩, root⟩ := assembly
  · simp only [addText] at adds
    split at adds
    · next blank =>
        obtain rfl := Except.ok.inj adds
        exact reads.misc (misc blank)
    · cases adds
  · obtain rfl := Except.ok.inj adds
    exact reads.nodes spells

/-- An element that is open is read when its closing tag is. -/
theorem close (reads : Reads tokens assembly) {name : List Char}
    (closes : assembly.closeElement name = .ok next) :
    Reads (tokens ++ [.closeTag name]) next := by
  cases reads with
  | before => cases closes
  | behind => cases closes
  | @within outer tag own attributes inner nodes opened root around tagged spells =>
      rw [closeElement] at closes
      split at closes
      · cases closes
      · next innermost rest same =>
          obtain ⟨rfl, rfl⟩ := List.cons.inj same
          split at closes
          · next named =>
              obtain rfl : name = own.toList := by
                rw [← String.toList_ofList (l := name), named]
                rfl
              have put : attach ⟨opened, root⟩ ⟨own, attributes, nodes⟩ = .ok next := by
                simpa [taking] using closes
              have read := around.element (.nested tagged spells) put
              rwa [← List.cons_append, ← List.append_assoc] at read
          · cases closes

/-- **One token more** is read as the grammar says. -/
theorem step (reads : Reads tokens assembly) {token : Token}
    (steps : assembly.step token = .ok next) : Reads (tokens ++ [token]) next := by
  cases token with
  | ignored =>
      obtain rfl := Except.ok.inj steps
      exact reads.unmoved .ignored (.ignored .nil)
  | text raw =>
      rw [Assembly.step] at steps
      split at steps
      · cases steps
      · next content spelled =>
          split at steps
          · next blank =>
              obtain rfl := Except.ok.inj steps
              exact reads.unmoved (.text spelled blank) (.blank spelled blank .nil)
          · next notBlank =>
              rw [Bool.not_eq_true] at notBlank
              exact reads.text (.text spelled notBlank .nil) (fun blank => .text spelled blank)
                steps
  | cdata content => exact reads.text (.cdata .nil) .cdata steps
  | openTag tag =>
      rw [Assembly.step] at steps
      cases tagged : tagElement tag with
      | error fault =>
          rw [tagged] at steps
          cases steps
      | ok e =>
          rw [tagged] at steps
          obtain rfl := Except.ok.inj steps
          obtain ⟨name, attributes, children⟩ := e
          obtain ⟨-, rfl⟩ := tagElement_eq_ok tagged
          exact .within reads tagged .nil
  | emptyTag tag =>
      rw [Assembly.step] at steps
      cases tagged : tagElement tag with
      | error fault =>
          rw [tagged] at steps
          cases steps
      | ok e =>
          rw [tagged] at steps
          obtain ⟨name, attributes, children⟩ := e
          obtain ⟨-, rfl⟩ := tagElement_eq_ok tagged
          exact reads.element (.empty tagged) steps
  | closeTag name => exact reads.close steps
  | broken fault => cases steps

/-- **What is read in part** is what the tokens so far spell. -/
theorem foldlM (reads : Reads tokens assembly)
    (leads : inner.foldlM Assembly.step assembly = .ok next) : Reads (tokens ++ inner) next := by
  induction inner generalizing tokens assembly with
  | nil =>
      obtain rfl := Except.ok.inj leads
      rwa [List.append_nil]
  | cons token inner ih =>
      rw [List.foldlM_cons] at leads
      cases steps : assembly.step token with
      | error fault =>
          rw [steps] at leads
          cases leads
      | ok between =>
          rw [steps] at leads
          have read := ih (reads.step steps) leads
          rwa [List.append_assoc] at read

end Assembly.Reads

/-- **The tokens from which a document is put together**: those of one element, with nothing but
ignored markup and blank text around it. -/
theorem assemble_eq_ok_iff {tokens : List Token} {e : Element} :
    assemble tokens = .ok e ↔
      ∃ before inner after, tokens = before ++ inner ++ after ∧
        (∀ token ∈ before, token.IsMisc) ∧ SpellsElement inner e ∧
        ∀ token ∈ after, token.IsMisc := by
  constructor
  · intro assembles
    rw [assemble] at assembles
    cases leads : tokens.foldlM Assembly.step Assembly.start with
    | error fault =>
        rw [leads] at assembles
        cases assembles
    | ok assembly =>
        rw [leads] at assembles
        have reads : Assembly.Reads tokens assembly :=
          @Assembly.Reads.foldlM [] tokens _ _ (.before (by simp)) leads
        cases reads with
        | before => cases assembles
        | within => cases assembles
        | behind first spells last =>
            obtain rfl := Except.ok.inj assembles
            exact ⟨_, _, _, rfl, first, spells, last⟩
  · rintro ⟨before, inner, after, rfl, first, spells, last⟩
    have leads : (before ++ inner ++ after).foldlM Assembly.step Assembly.start =
        .ok ⟨[], some e⟩ := by
      rw [Assembly.start, List.append_assoc, foldlM_of_foldlM _ (Assembly.foldlM_misc first none),
        foldlM_of_foldlM _ (spells.foldlM_step ⟨[], none⟩)]
      exact Assembly.foldlM_misc last (some e)
    rw [assemble, leads]
    rfl

/-! ### What is wrong with other tokens -/

/-- What is known of the tokens so far when a token is looked at: the names of the open elements,
innermost first, and whether the element of the document was there already. -/
structure Outline where
  opened : List String := []
  rooted : Bool := false

namespace Outline

/-- What is known after one more token. -/
def after (outline : Outline) : Token → Outline
  | .openTag tag => { outline with opened := String.ofList (tagName tag) :: outline.opened }
  | .emptyTag _ => { outline with rooted := outline.rooted || outline.opened.isEmpty }
  | .closeTag _ =>
    ⟨outline.opened.tail, outline.rooted || outline.opened.tail.isEmpty⟩
  | .text _ | .cdata _ | .ignored | .broken _ => outline

/-- What is wrong with the attributes of a tag. -/
def tagFault? (tag : List Char) : Option DocumentFault :=
  match readAttributes (tagRest tag) with
  | .ok _ => none
  | .error fault => some (.content fault)

/-- What is wrong where an element ends: outside of all others there may be one only. -/
def placeFault? (opened : List String) (rooted : Bool) : Option DocumentFault :=
  if opened = [] ∧ rooted = true then some .manyRoots else none

/-- What is wrong with text: outside of elements it has to be blank. -/
def textFault? (opened : List String) (content : List Char) : Option DocumentFault :=
  if opened = [] ∧ content.all Text.isBlankChar = false then some .strayText else none

/-- What is wrong with a token. -/
def fault? (outline : Outline) : Token → Option DocumentFault
  | .openTag tag => tagFault? tag
  | .emptyTag tag => (tagFault? tag).or (placeFault? outline.opened outline.rooted)
  | .closeTag name =>
    match outline.opened with
    | [] => some (.markup (.strayClose (String.ofList name)))
    | innermost :: rest =>
      if String.ofList name = innermost then placeFault? rest outline.rooted
      else some (.markup (.mismatchedClose innermost (String.ofList name)))
  | .text raw =>
    match unescape? raw with
    | none => some (.content .badReference)
    | some content => textFault? outline.opened content
  | .cdata content => textFault? outline.opened content
  | .ignored => none
  | .broken fault => some (.markup fault)

/-- What is wrong at the end. -/
def endFault? (outline : Outline) : Option DocumentFault :=
  if outline.opened ≠ [] then some .unfinished
  else if outline.rooted then none else some .noRoot

/-- What can be wrong with tokens, one by one, and at their end. -/
def faults (outline : Outline) : List Token → List (Option DocumentFault)
  | [] => [outline.endFault?]
  | token :: rest => outline.fault? token :: (outline.after token).faults rest

end Outline

/-- What is known of a document read in part. -/
def Assembly.outline (assembly : Assembly) : Outline :=
  ⟨assembly.opened.map (·.name), assembly.root.isSome⟩

namespace Assembly

variable {assembly next : Assembly}

theorem attach_outline (assembly : Assembly) (e : Element) :
    (assembly.attach e).map outline =
      (Outline.placeFault? assembly.outline.opened assembly.outline.rooted).elim
        (.ok { assembly.outline with
          rooted := assembly.outline.rooted || assembly.outline.opened.isEmpty }) .error := by
  obtain ⟨_ | ⟨parent, opened⟩, _ | root⟩ := assembly <;>
    simp [attach, Outline.placeFault?, outline, Except.map]

theorem addText_outline (assembly : Assembly) (content : List Char) :
    (assembly.addText content).map outline =
      (Outline.textFault? assembly.outline.opened content).elim (.ok assembly.outline) .error := by
  obtain ⟨_ | ⟨parent, opened⟩, root⟩ := assembly
  · cases blank : content.all Text.isBlankChar <;>
      simp [addText, Outline.textFault?, outline, blank, Except.map]
  · simp [addText, Outline.textFault?, outline, Except.map]

/-- **One more token**: what is wrong with it, or what is known after it. -/
theorem step_outline (assembly : Assembly) (token : Token) :
    (assembly.step token).map outline =
      (assembly.outline.fault? token).elim (.ok (assembly.outline.after token)) .error := by
  cases token with
  | ignored => rfl
  | broken fault => rfl
  | cdata content => exact assembly.addText_outline content
  | text raw =>
      rw [step, Outline.fault?]
      cases unescape? raw with
      | none => rfl
      | some content =>
          cases blank : content.all Text.isBlankChar with
          | true => simp [blank, Outline.textFault?, Except.map, Outline.after]
          | false => simpa [blank, Outline.after] using assembly.addText_outline content
  | openTag tag =>
      rw [step, tagElement, Outline.fault?, Outline.tagFault?]
      cases readAttributes (tagRest tag) <;> rfl
  | emptyTag tag =>
      rw [step, tagElement, Outline.fault?, Outline.tagFault?]
      cases readAttributes (tagRest tag) with
      | error fault => rfl
      | ok attributes =>
          rw [Option.none_or]
          exact assembly.attach_outline ⟨String.ofList (tagName tag), attributes, []⟩
  | closeTag name =>
      obtain ⟨_ | ⟨innermost, rest⟩, root⟩ := assembly
      · rfl
      · by_cases named : String.ofList name = innermost.name
        · have attached := attach_outline ⟨rest, root⟩
            { innermost with children := innermost.children.reverse }
          simpa [step, closeElement, named, Outline.fault?, outline, Outline.after] using attached
        · simp [step, closeElement, named, Except.map, Outline.fault?, outline]

/-- What is wrong at the end, or nothing. -/
theorem finish_eq_error_iff (assembly : Assembly) {fault : DocumentFault} :
    assembly.finish = .error fault ↔ assembly.outline.endFault? = some fault := by
  obtain ⟨_ | ⟨innermost, rest⟩, _ | root⟩ := assembly <;>
    simp [finish, outline, Outline.endFault?]

/-- What is wrong with the tokens that are still to be read. -/
theorem foldlM_finish_eq_error_iff (assembly : Assembly) (tokens : List Token)
    {fault : DocumentFault} :
    (tokens.foldlM step assembly >>= finish) = .error fault ↔
      (assembly.outline.faults tokens).findSome? id = some fault := by
  induction tokens generalizing assembly with
  | nil =>
      refine assembly.finish_eq_error_iff.trans ?_
      cases ends : assembly.outline.endFault? <;> simp [Outline.faults, ends]
  | cons token tokens ih =>
      have steps := assembly.step_outline token
      rw [List.foldlM_cons, Outline.faults, List.findSome?_cons]
      cases next : assembly.step token with
      | error wrong =>
          rw [next] at steps
          cases found : assembly.outline.fault? token with
          | none =>
              rw [found] at steps
              cases steps
          | some first =>
              rw [found] at steps
              obtain rfl := Except.error.inj steps
              simp [bind, Except.bind]
      | ok next' =>
          rw [next] at steps
          cases found : assembly.outline.fault? token with
          | none =>
              rw [found] at steps
              obtain same : next'.outline = assembly.outline.after token := Except.ok.inj steps
              rw [← same]
              exact ih next'
          | some first =>
              rw [found] at steps
              cases steps

end Assembly

/-- **What is wrong with tokens** from which no document is put together is what is wrong first. -/
theorem assemble_eq_error_iff {tokens : List Token} {fault : DocumentFault} :
    assemble tokens = .error fault ↔
      (Outline.faults {} tokens).findSome? id = some fault :=
  Assembly.foldlM_finish_eq_error_iff .start tokens

end Markup

/-- **What texts are read as.** A text is read as a document if and only if its tokens spell the
document, with nothing but ignored markup and blank text around it. Any other text fails with what
is wrong first: with one of its tokens, of which it is known what the tokens before it open and
close, or else with its end. -/
theorem Element.parse_iff_grammar (text : String) :
    let tokens := Markup.Token.scan (Markup.withoutMark text.toList)
    (∀ e, Element.parse text = .ok e ↔
        ∃ before inner after, tokens = before ++ inner ++ after ∧
          (∀ token ∈ before, token.IsMisc) ∧ Markup.SpellsElement inner e ∧
          ∀ token ∈ after, token.IsMisc) ∧
      ∀ fault, Element.parse text = .error fault ↔
        (Markup.Outline.faults {} tokens).findSome? id = some fault :=
  ⟨fun _ => Markup.assemble_eq_ok_iff, fun _ => Markup.assemble_eq_error_iff⟩

/-- An element with text is read as such; text alone is stray. -/
theorem Element.parse_text_within_and_alone :
    Element.parse "<a>x</a>" = .ok ⟨"a", [], [.text "x"]⟩ ∧
      Element.parse "x" = .error .strayText := by
  have within : Markup.Token.scan (Markup.withoutMark "<a>x</a>".toList) =
      [.openTag ['a'], .text ['x'], .closeTag ['a']] := by
    have opens : Markup.Token.next (Markup.withoutMark "<a>x</a>".toList) =
        some (.openTag ['a'], ['x', '<', '/', 'a', '>']) := by decide
    have spells : Markup.Token.next ['x', '<', '/', 'a', '>'] =
        some (.text ['x'], ['<', '/', 'a', '>']) := by decide
    have closes : Markup.Token.next ['<', '/', 'a', '>'] = some (.closeTag ['a'], []) := by decide
    rw [Markup.scan_of_next opens, Markup.scan_of_next spells, Markup.scan_of_next closes,
      Markup.Token.scan]
    rfl
  have alone : Markup.Token.scan (Markup.withoutMark "x".toList) = [.text ['x']] := by
    have spells : Markup.Token.next (Markup.withoutMark "x".toList) = some (.text ['x'], []) := by
      decide
    rw [Markup.scan_of_next spells, Markup.Token.scan]
    rfl
  have tagged : Markup.Assembly.tagElement ['a'] = .ok ⟨"a", [], []⟩ :=
    @Markup.tagElement_writeTag "a" [] (by simp [Markup.isSpace]) (by simp) .nil
  constructor
  · have spelled : Markup.SpellsElement [.openTag ['a'], .text ['x'], .closeTag ['a']]
        ⟨"a", [], [.text "x"]⟩ := .nested tagged (.text rfl rfl .nil)
    refine ((Element.parse_iff_grammar "<a>x</a>").1 _).mpr ?_
    exact ⟨[], _, [], by rw [within]; rfl, by simp, spelled, by simp⟩
  · refine ((Element.parse_iff_grammar "x").2 _).mpr ?_
    rw [alone]
    rfl

end DocPipeline
