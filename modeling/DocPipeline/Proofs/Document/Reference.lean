import DocPipeline.Document.Reference

/-!
# References read back

Reading undoes escaping: wherever escaped text stands, it is read as the text that was escaped, up
to its end and no further. What is escaped holds no bracket and no quote, so that it ends neither a
run of text nor a value in quotes.

## Main results

* `Markup.unescapeFrom_escape`, `Markup.unescape?_escape`: escaped text is read back.
* `Markup.escape_spares`: the characters that escaping spares.
-/

namespace DocPipeline.Markup

/-- An escaped character is read as the character. -/
theorem unescapeFrom_escapeChar (out : List Char) (c : Char) (rest : List Char) :
    unescapeFrom out none (escapeChar c ++ rest) = unescapeFrom (c :: out) none rest := by
  rw [escapeChar]
  split
  · next eq => subst eq; rfl
  split
  · next eq => subst eq; rfl
  split
  · next eq => subst eq; rfl
  split
  · next eq => subst eq; rfl
  split
  · next eq => subst eq; rfl
  · next notAmpersand _ _ =>
      rw [List.singleton_append, unescapeFrom, if_neg notAmpersand]

/-- Escaped text is read as the text, whatever stands behind it. -/
theorem unescapeFrom_escape (out cs rest : List Char) :
    unescapeFrom out none (escape cs ++ rest) = unescapeFrom (cs.reverse ++ out) none rest := by
  induction cs generalizing out with
  | nil => rfl
  | cons c cs ih =>
      have split : escape (c :: cs) ++ rest = escapeChar c ++ (escape cs ++ rest) := by
        rw [escape, List.flatMap_cons, List.append_assoc]
        rfl
      rw [split, unescapeFrom_escapeChar, ih, List.reverse_cons, List.append_assoc]
      rfl

/-- **Reading undoes escaping.** -/
theorem unescape?_escape (cs : List Char) : unescape? (escape cs) = some cs := by
  have read := unescapeFrom_escape [] cs []
  rw [List.append_nil, List.append_nil] at read
  rw [unescape?, read, unescapeFrom, List.reverse_reverse]

/-- Escaping text piece by piece. -/
theorem escape_append (first second : List Char) :
    escape (first ++ second) = escape first ++ escape second :=
  List.flatMap_append

/-- A character that markup gives a meaning: a bracket or a quote. -/
def isMark (c : Char) : Bool := c = '<' || c = '>' || c = '"' || c = '\''

/-- An escaped character is written without brackets and quotes. -/
theorem escapeChar_spares (c : Char) : (escapeChar c).all (!isMark ·) = true := by
  rw [escapeChar]
  split
  · rfl
  split
  · rfl
  split
  · rfl
  split
  · rfl
  split
  · rfl
  · next noOpen noClose _ noSingle noDouble =>
      simp [isMark, noOpen, noClose, noSingle, noDouble]

/-- **Escaped text holds no bracket and no quote.** -/
theorem escape_spares {cs : List Char} {d : Char} (mem : d ∈ escape cs) : isMark d = false := by
  obtain ⟨c, -, written⟩ := List.mem_flatMap.mp mem
  have spared := List.all_eq_true.mp (escapeChar_spares c) d written
  simpa using spared

end DocPipeline.Markup
