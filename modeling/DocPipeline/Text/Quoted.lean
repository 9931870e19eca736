import DocPipeline.Text.Blank
import DocPipeline.Text.Extending
import DocPipeline.Text.Unassigned

/-!
# Quoted text

How a text is written inside a diagnostic line: between double quotes, with the quote, the
backslash and the characters that cannot be seen on their own escaped, all other characters as they
are.
-/

namespace DocPipeline.Text

/-- The characters that are never drawn, as inclusive ranges of code points: those of the category
of format characters, and those with the property Default_Ignorable_Code_Point that are in no other
table. -/
def hiddenRanges : List (Nat × Nat) :=
  [(0xAD, 0xAD), (0x600, 0x605), (0x61C, 0x61C), (0x6DD, 0x6DD), (0x70F, 0x70F), (0x890, 0x891),
    (0x8E2, 0x8E2), (0x115F, 0x1160), (0x180E, 0x180E), (0x200B, 0x200B), (0x200D, 0x200F),
    (0x202A, 0x202E), (0x2060, 0x2064), (0x2066, 0x206F), (0x3164, 0x3164), (0xFEFF, 0xFEFF),
    (0xFFA0, 0xFFA0), (0xFFF9, 0xFFFB), (0x110BD, 0x110BD), (0x110CD, 0x110CD), (0x13430, 0x1343F),
    (0x1BCA0, 0x1BCA3), (0x1D173, 0x1D17A), (0xE0001, 0xE0001)]

/-- A control character. -/
def isControl (c : Char) : Bool := c.toNat < 0x20 || (0x7F ≤ c.toNat && c.toNat < 0xA0)

/-- A character that cannot be seen on its own: a control character, a blank one other than the
space, one that is never drawn or is drawn on the one before it, or none at all. Of ASCII only
control characters cannot be seen. -/
def isUnseen (c : Char) : Bool :=
  isControl c ||
    (0x80 ≤ c.toNat &&
      (isBlankChar c || inRanges hiddenRanges c || isExtending c || isUnassigned c))

/-- The written form of one character between double quotes: a backslash before a quote or a
backslash, letters for NUL, tab, line feed and carriage return, the code point for other characters
that cannot be seen. -/
def quotedChar (c : Char) : List Char :=
  if c = '"' then ['\\', '"']
  else if c = '\\' then ['\\', '\\']
  else if c = '\n' then ['\\', 'n']
  else if c = '\r' then ['\\', 'r']
  else if c = '\t' then ['\\', 't']
  else if c = '\x00' then ['\\', '0']
  else if isUnseen c then ['\\', 'u', '\x7b'] ++ Nat.toDigits 16 c.toNat ++ ['\x7d']
  else [c]

/-- A text between double quotes. -/
def quoted (s : String) : String :=
  String.ofList ('"' :: s.toList.flatMap quotedChar ++ ['"'])

end DocPipeline.Text
