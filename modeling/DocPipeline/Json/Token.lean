import DocPipeline.Json.Numeral
import DocPipeline.Text.Digits

/-!
# The tokens of a JSON text

Cutting a JSON text into punctuation, literals, numbers and strings, by the grammar of RFC 8259:
four blank characters, no leading zeros, no bare control characters in strings.

A string token keeps what its escapes spell. It may spell surrogate code units that do not pair,
in which case it stands for no text; such a string is well formed all the same and does no harm
where nobody reads it.

## Main definitions

* `Json.Token.scan`: the tokens of a text, `none` where the text departs from the grammar.
-/

namespace DocPipeline.Json

/-- The smallest parts of a JSON text. -/
inductive Token where
  | openObject
  | closeObject
  | openArray
  | closeArray
  | colon
  | comma
  | null
  | bool (value : Bool)
  | number (numeral : Numeral)
  /-- A string, with the text that it spells if it spells one. -/
  | string (text : Option String)
deriving DecidableEq, Repr

/-! ### Strings -/

/-- The character that a letter behind a backslash stands for. -/
def escaped? : Char → Option Char
  | '"' => some '"'
  | '\\' => some '\\'
  | '/' => some '/'
  | 'b' => some '\x08'
  | 'f' => some '\x0c'
  | 'n' => some '\n'
  | 'r' => some '\r'
  | 't' => some '\t'
  | _ => none

/-- The code points and surrogate code units that a string spells up to its closing quote, latest
first on top of `spelled`, and the text behind that quote. -/
def scanString (spelled : List Nat) : List Char → Option (List Nat × List Char)
  | [] => none
  | '"' :: rest => some (spelled, rest)
  | '\\' :: 'u' :: a :: b :: c :: d :: rest =>
    match Text.numberOf? 16 Text.hexDigit? [a, b, c, d] with
    | some unit => scanString (unit :: spelled) rest
    | none => none
  | '\\' :: letter :: rest =>
    match escaped? letter with
    | some c => scanString (c.toNat :: spelled) rest
    | none => none
  | c :: rest =>
    if c = '\\' ∨ c.toNat < 0x20 then none else scanString (c.toNat :: spelled) rest

/-- A code unit that opens a surrogate pair. -/
def isHighSurrogate (unit : Nat) : Bool := decide (0xD800 ≤ unit) && decide (unit < 0xDC00)

/-- A code unit that closes a surrogate pair. -/
def isLowSurrogate (unit : Nat) : Bool := decide (0xDC00 ≤ unit) && decide (unit < 0xE000)

/-- One more code point or code unit in front of a text that starts, or not, with the second half
of a pair. The text is given by the characters read so far and a pending second half. -/
def joinUnit (state : Option (List Char × Option Nat)) (unit : Nat) :
    Option (List Char × Option Nat) :=
  match state with
  | none => none
  | some (text, some low) =>
    if isHighSurrogate unit then
      some (Char.ofNat (0x10000 + (unit - 0xD800) * 0x400 + (low - 0xDC00)) :: text, none)
    else none
  | some (text, none) =>
    if isLowSurrogate unit then some (text, some unit)
    else if isHighSurrogate unit then none
    else some (Char.ofNat unit :: text, none)

/-- The text that code points and code units spell, given latest first. Surrogates have to come
in pairs; otherwise they spell no text. -/
def spelledText (units : List Nat) : Option String :=
  match units.foldl joinUnit (some ([], none)) with
  | some (text, none) => some (String.ofList text)
  | _ => none

/-! ### Tokens -/

/-- The blank characters of JSON: space, tab, line feed and carriage return. -/
def isBlank (c : Char) : Bool := c = ' ' || c = '\t' || c = '\n' || c = '\r'

/-- The token at the start of a text that does not start with a blank, and the rest. -/
def Token.next : List Char → Option (Token × List Char)
  | '\x7b' :: rest => some (.openObject, rest)
  | '\x7d' :: rest => some (.closeObject, rest)
  | '[' :: rest => some (.openArray, rest)
  | ']' :: rest => some (.closeArray, rest)
  | ':' :: rest => some (.colon, rest)
  | ',' :: rest => some (.comma, rest)
  | '"' :: rest => (scanString [] rest).map fun (units, rest) => (.string (spelledText units), rest)
  | 'n' :: 'u' :: 'l' :: 'l' :: rest => some (.null, rest)
  | 't' :: 'r' :: 'u' :: 'e' :: rest => some (.bool true, rest)
  | 'f' :: 'a' :: 'l' :: 's' :: 'e' :: rest => some (.bool false, rest)
  | rest => (Numeral.scan rest).map fun (numeral, rest) => (.number numeral, rest)

/-- The tokens of a text, on top of those already found, latest first. Every token takes a
character at least, so as many steps as there are characters are enough. -/
def Token.scanFrom : (steps : Nat) → (found : List Token) → List Char → Option (List Token)
  | 0, found, cs => if (cs.dropWhile isBlank).isEmpty then some found.reverse else none
  | steps + 1, found, cs =>
    match cs.dropWhile isBlank with
    | [] => some found.reverse
    | c :: rest =>
      match Token.next (c :: rest) with
      | none => none
      | some (token, rest) => Token.scanFrom steps (token :: found) rest

/-- The tokens of a text, `none` where the text departs from the grammar of tokens. -/
def Token.scan (cs : List Char) : Option (List Token) :=
  Token.scanFrom cs.length [] cs

end DocPipeline.Json
