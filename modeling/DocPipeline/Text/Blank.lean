import DocPipeline.Text.Ranges

/-!
# Blank text

The white space of Unicode: which characters count as blank, when a text is blank, and what is
left of a text when the blank characters at both of its ends are taken off.

## Main definitions

* `Text.isBlankChar`: membership in the property table.
* `Text.trim`: a text without the blank characters at its ends.
* `Text.isBlank`: nothing but blank characters.
-/

namespace DocPipeline.Text

/-- The characters with the Unicode property White_Space, as inclusive ranges of code points. -/
def blankRanges : List (Nat × Nat) :=
  [(0x09, 0x0D), (0x20, 0x20), (0x85, 0x85), (0xA0, 0xA0), (0x1680, 0x1680), (0x2000, 0x200A),
    (0x2028, 0x2029), (0x202F, 0x202F), (0x205F, 0x205F), (0x3000, 0x3000)]

/-- A character is blank when its code point lies in one of the ranges of White_Space. -/
def isBlankChar (c : Char) : Bool := inRanges blankRanges c

/-- The characters of a text without the blank ones at either end. -/
def trimChars (cs : List Char) : List Char :=
  ((cs.dropWhile isBlankChar).reverse.dropWhile isBlankChar).reverse

/-- A text without the blank characters at either end. -/
def trim (s : String) : String :=
  String.ofList (trimChars s.toList)

/-- A text is blank when it holds blank characters only; the empty text is blank. -/
def isBlank (s : String) : Bool :=
  s.toList.all isBlankChar

/-- The ASCII letters of a text in upper case, every other character as it stands. -/
def asciiUpper (s : String) : String :=
  String.ofList (s.toList.map Char.toUpper)

/-- The ASCII letters of a text in lower case, every other character as it stands. -/
def asciiLower (s : String) : String :=
  String.ofList (s.toList.map Char.toLower)

end DocPipeline.Text
