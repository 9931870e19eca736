import DocPipeline.Document.Fault

/-!
# The tokens of a document text

Cutting a text into tags, runs of text, character data sections, and the comments, instructions
and document type declarations that carry no content. What stands inside a tag or a run of text
is not looked at here, and names are not checked.

The tokens of a text that cannot be cut to its end close with a `broken` token.

## Main definitions

* `Markup.Token.next`: the first token of a text and the rest.
* `Markup.Token.scan`: all tokens of a text.

## Main results

* `Markup.Token.next_length`: every token takes at least one character, so that scanning ends.
-/

namespace DocPipeline.Markup

/-- A piece of a document text, with the characters that it holds. -/
inductive Token where
  /-- A run of text outside of markup, references unread. -/
  | text (raw : List Char)
  /-- The content of a character data section. -/
  | cdata (content : List Char)
  /-- A tag that opens an element, without its brackets. -/
  | openTag (tag : List Char)
  /-- A tag that is a whole element, without its brackets and the slash at its end. -/
  | emptyTag (tag : List Char)
  /-- A tag that closes an element of this name. -/
  | closeTag (name : List Char)
  /-- A comment, an instruction or a document type declaration. -/
  | ignored
  /-- The text cannot be cut further. -/
  | broken (fault : MarkupFault)
deriving DecidableEq, Repr

/-- The blank characters of markup: space, tab, carriage return and line feed. -/
def isSpace (c : Char) : Bool := c = ' ' || c = '\t' || c = '\r' || c = '\n'

/-! ### Finding closing marks -/

/-- The rest of a text behind an opening mark, if the text starts with it. -/
def behind? : (mark : List Char) → List Char → Option (List Char)
  | [], cs => some cs
  | _ :: _, [] => none
  | m :: mark, c :: cs => if m = c then behind? mark cs else none

/-- A text up to the first place where a mark stands, and the rest behind the mark. `passed` is
what was passed already, latest first. -/
def splitAt? (mark : List Char) (passed : List Char) : List Char → Option (List Char × List Char)
  | [] => (behind? mark []).map (passed.reverse, ·)
  | c :: cs =>
    match behind? mark (c :: cs) with
    | some rest => some (passed.reverse, rest)
    | none => splitAt? mark (c :: passed) cs

/-- A text up to the first closing bracket that is not within quotes, and the rest behind the
bracket. `quote` is the quote that is open. -/
def splitTag? : (quote : Option Char) → (passed : List Char) → List Char →
    Option (List Char × List Char)
  | _, _, [] => none
  | none, passed, c :: cs =>
    if c = '>' then some (passed.reverse, cs)
    else splitTag? (if c = '"' ∨ c = '\'' then some c else none) (c :: passed) cs
  | some quote, passed, c :: cs =>
    splitTag? (if c = quote then none else some quote) (c :: passed) cs

/-- A text up to the closing bracket that balances `depth` further opening brackets, and the rest
behind it. -/
def splitBalanced? : (depth : Nat) → (passed : List Char) → List Char →
    Option (List Char × List Char)
  | _, _, [] => none
  | depth, passed, c :: cs =>
    if c = '<' then splitBalanced? (depth + 1) (c :: passed) cs
    else if c = '>' then
      match depth with
      | 0 => some (passed.reverse, cs)
      | depth + 1 => splitBalanced? depth (c :: passed) cs
    else splitBalanced? depth (c :: passed) cs

/-! ### Tokens -/

/-- The name in a closing tag is what stands behind its slash, without the spaces at the end. Spaces
on their own are a name that no element has. -/
def closedName (content : List Char) : List Char :=
  if content.all isSpace then content else (content.reverse.dropWhile isSpace).reverse

/-- What a document type declaration says is its keyword, in any case, and then something that is
not blank. -/
def isDoctype (content : List Char) : Bool :=
  (content.take 7).map Char.toUpper == ['D', 'O', 'C', 'T', 'Y', 'P', 'E'] &&
    (content.drop 7).any (!isSpace ·)

/-- The token behind an opening bracket and an exclamation mark. -/
def declaration (cs : List Char) : Token × List Char :=
  match cs with
  | '[' :: _ =>
    match behind? ['[', 'C', 'D', 'A', 'T', 'A', '['] cs with
    | none => (.broken .unknownDeclaration, [])
    | some body =>
      match splitAt? [']', ']', '>'] [] body with
      | some (content, rest) => (.cdata content, rest)
      | none => (.broken (.unclosed .cdata), [])
  | '-' :: _ =>
    match behind? ['-', '-'] cs with
    | none => (.broken .unknownDeclaration, [])
    | some body =>
      match splitAt? ['-', '-', '>'] [] body with
      | some (_, rest) => (.ignored, rest)
      | none => (.broken (.unclosed .comment), [])
  | c :: _ =>
    if c = 'D' ∨ c = 'd' then
      match splitBalanced? 0 [] cs with
      | some (content, rest) =>
        if isDoctype content then (.ignored, rest) else (.broken .unnamedDoctype, [])
      | none => (.broken (.unclosed .doctype), [])
    else (.broken .unknownDeclaration, [])
  | [] => (.broken .unknownDeclaration, [])

/-- The token behind an opening bracket and a question mark. -/
def instruction (cs : List Char) : Token × List Char :=
  if cs.head? = some '>' then (.broken .emptyInstruction, [])
  else
    match splitAt? ['?', '>'] [] cs with
    | some (_, rest) => (.ignored, rest)
    | none => (.broken (.unclosed .instruction), [])

/-- The token behind an opening bracket and a slash. -/
def closing (cs : List Char) : Token × List Char :=
  match splitTag? none [] cs with
  | some (content, rest) => (.closeTag (closedName content), rest)
  | none => (.broken (.unclosed .tag), [])

/-- The token behind an opening bracket that starts a tag: a slash at the very end makes the tag a
whole element. -/
def opening (cs : List Char) : Token × List Char :=
  match splitTag? none [] cs with
  | some (content, rest) =>
    if content.getLast? = some '/' then (.emptyTag content.dropLast, rest)
    else (.openTag content, rest)
  | none => (.broken (.unclosed .tag), [])

/-- The token behind an opening bracket. -/
def bracketed : List Char → Token × List Char
  | [] => (.broken .loneBracket, [])
  | '!' :: cs => declaration cs
  | '?' :: cs => instruction cs
  | '/' :: cs => closing cs
  | cs => opening cs

namespace Token

/-- The first token of a text and the rest; the empty text has no token. -/
def next : List Char → Option (Token × List Char)
  | [] => none
  | '<' :: cs => some (bracketed cs)
  | c :: cs => some (.text (c :: cs.takeWhile (· ≠ '<')), cs.dropWhile (· ≠ '<'))

/-! ### Every token takes a character -/

/-- Passing an opening mark leaves no more than there was. -/
theorem behind?_length {mark cs rest : List Char} (h : behind? mark cs = some rest) :
    rest.length ≤ cs.length := by
  induction mark generalizing cs with
  | nil => simp_all [behind?]
  | cons m mark ih =>
    cases cs with
    | nil => simp [behind?] at h
    | cons c cs =>
      simp only [behind?] at h
      split at h
      · exact Nat.le_succ_of_le (ih h)
      · cases h

/-- What stands behind a mark is no more than there was. -/
theorem splitAt?_length {mark passed cs content rest : List Char}
    (h : splitAt? mark passed cs = some (content, rest)) : rest.length ≤ cs.length := by
  induction cs generalizing passed with
  | nil =>
    simp only [splitAt?, Option.map_eq_some_iff, Prod.mk.injEq] at h
    obtain ⟨r, hr, -, rfl⟩ := h
    exact behind?_length hr
  | cons c cs ih =>
    simp only [splitAt?] at h
    split at h
    · rename_i r hr
      obtain ⟨-, rfl⟩ : _ ∧ r = rest := by simpa using h
      exact behind?_length hr
    · exact Nat.le_succ_of_le (ih h)

/-- What stands behind a tag is no more than there was. -/
theorem splitTag?_length {quote : Option Char} {passed cs content rest : List Char}
    (h : splitTag? quote passed cs = some (content, rest)) : rest.length ≤ cs.length := by
  induction cs generalizing quote passed with
  | nil => cases quote <;> simp [splitTag?] at h
  | cons c cs ih =>
    cases quote with
    | none =>
      simp only [splitTag?] at h
      split at h
      · obtain ⟨-, rfl⟩ : _ ∧ cs = rest := by simpa using h
        exact Nat.le_succ _
      · exact Nat.le_succ_of_le (ih h)
    | some quote =>
      simp only [splitTag?] at h
      exact Nat.le_succ_of_le (ih h)

/-- What stands behind a balanced declaration is no more than there was. -/
theorem splitBalanced?_length {depth : Nat} {passed cs content rest : List Char}
    (h : splitBalanced? depth passed cs = some (content, rest)) : rest.length ≤ cs.length := by
  induction cs generalizing depth passed with
  | nil => simp [splitBalanced?] at h
  | cons c cs ih =>
    simp only [splitBalanced?] at h
    split at h
    · exact Nat.le_succ_of_le (ih h)
    · split at h
      · cases depth with
        | zero =>
          obtain ⟨-, rfl⟩ : _ ∧ cs = rest := by simpa using h
          exact Nat.le_succ _
        | succ depth => exact Nat.le_succ_of_le (ih h)
      · exact Nat.le_succ_of_le (ih h)

/-- A declaration leaves no more than there was behind its exclamation mark. -/
theorem declaration_length (cs : List Char) : (declaration cs).2.length ≤ cs.length := by
  unfold declaration
  split
  · split
    · simp
    · rename_i hb
      split
      · rename_i hs
        exact Nat.le_trans (splitAt?_length hs) (behind?_length hb)
      · simp
  · split
    · simp
    · rename_i hb
      split
      · rename_i hs
        exact Nat.le_trans (splitAt?_length hs) (behind?_length hb)
      · simp
  · split
    · split
      · rename_i hs
        split
        · exact splitBalanced?_length hs
        · simp
      · simp
    · simp
  · simp

/-- An instruction leaves no more than there was behind its question mark. -/
theorem instruction_length (cs : List Char) : (instruction cs).2.length ≤ cs.length := by
  unfold instruction
  split
  · simp
  · split
    · rename_i hs
      exact splitAt?_length hs
    · simp

/-- A closing tag leaves no more than there was behind its slash. -/
theorem closing_length (cs : List Char) : (closing cs).2.length ≤ cs.length := by
  unfold closing
  split
  · rename_i hs
    exact splitTag?_length hs
  · simp

/-- An opening tag leaves no more than there was behind its bracket. -/
theorem opening_length (cs : List Char) : (opening cs).2.length ≤ cs.length := by
  unfold opening
  split
  · rename_i hs
    split <;> exact splitTag?_length hs
  · simp

/-- Markup leaves no more than there was behind its bracket. -/
theorem bracketed_length (cs : List Char) : (bracketed cs).2.length ≤ cs.length := by
  unfold bracketed
  split
  · simp
  · exact Nat.le_succ_of_le (declaration_length _)
  · exact Nat.le_succ_of_le (instruction_length _)
  · exact Nat.le_succ_of_le (closing_length _)
  · exact opening_length _

/-- Every token takes at least one character. -/
theorem next_length {cs rest : List Char} {token : Token} (h : next cs = some (token, rest)) :
    rest.length < cs.length := by
  unfold next at h
  split at h
  · cases h
  · rename_i tail
    have := bracketed_length tail
    simp only [Option.some.injEq] at h
    rw [h] at this
    exact Nat.lt_succ_of_le this
  · rename_i c tail _
    simp only [Option.some.injEq, Prod.mk.injEq] at h
    rw [← h.2]
    exact Nat.lt_succ_of_le (List.dropWhile_sublist _).length_le

/-- All tokens of a text, in order. -/
def scan (cs : List Char) : List Token :=
  match _h : next cs with
  | none => []
  | some (token, rest) => token :: scan rest
termination_by cs.length
decreasing_by exact next_length _h

end Token

end DocPipeline.Markup
