import DocPipeline.Text.Digits

/-!
# Character references

The five characters that markup gives a meaning are written as references wherever they stand for
themselves. Reading knows these five names and the references by number, and no others.

## Main definitions

* `Markup.escape`: text with its special characters as references.
* `Markup.unescape?`: the text that references spell.
-/

namespace DocPipeline.Markup

/-- A character, or the reference it has to be written as. -/
def escapeChar (c : Char) : List Char :=
  if c = '<' then ['&', 'l', 't', ';']
  else if c = '>' then ['&', 'g', 't', ';']
  else if c = '&' then ['&', 'a', 'm', 'p', ';']
  else if c = '\'' then ['&', 'a', 'p', 'o', 's', ';']
  else if c = '"' then ['&', 'q', 'u', 'o', 't', ';']
  else [c]

/-- Text with its special characters as references. -/
def escape (cs : List Char) : List Char := cs.flatMap escapeChar

/-- The character with a code point other than zero. -/
def scalar? (code : Nat) : Option Char :=
  if code ≠ 0 ∧ code.isValidChar then some (Char.ofNat code) else none

/-- The character that a reference stands for, given what is written between the ampersand and
the semicolon: one of five names, or a code point behind a number sign. -/
def reference? : List Char → Option Char
  | ['l', 't'] => some '<'
  | ['g', 't'] => some '>'
  | ['a', 'm', 'p'] => some '&'
  | ['a', 'p', 'o', 's'] => some '\''
  | ['q', 'u', 'o', 't'] => some '"'
  | '#' :: 'x' :: digits => (Text.numberOf? 16 Text.hexDigit? digits).bind scalar?
  | '#' :: digits => (Text.numberOf? 10 Text.decimalDigit? digits).bind scalar?
  | _ => none

/-- Reads text character by character. `out` is the text read so far and `name` what has been read
of a reference, both latest first; a reference runs to a semicolon without another ampersand in
between. -/
def unescapeFrom (out : List Char) : (name : Option (List Char)) → List Char → Option (List Char)
  | none, [] => some out.reverse
  | some _, [] => none
  | none, c :: rest =>
    if c = '&' then unescapeFrom out (some []) rest else unescapeFrom (c :: out) none rest
  | some name, c :: rest =>
    if c = ';' then
      match reference? name.reverse with
      | some referred => unescapeFrom (referred :: out) none rest
      | none => none
    else if c = '&' then none
    else unescapeFrom out (some (c :: name)) rest

/-- The text that references spell, `none` if one of them stands for no character. -/
def unescape? (cs : List Char) : Option (List Char) := unescapeFrom [] none cs

end DocPipeline.Markup
