/-!
# Digits

Reading natural numbers written in decimal or hexadecimal digits, without signs or separators.
-/

namespace DocPipeline.Text

/-- The value of a decimal digit. -/
def decimalDigit? (c : Char) : Option Nat :=
  if '0' ≤ c ∧ c ≤ '9' then some (c.toNat - '0'.toNat) else none

/-- The value of a hexadecimal digit, its letters in either case. -/
def hexDigit? (c : Char) : Option Nat :=
  if '0' ≤ c ∧ c ≤ '9' then some (c.toNat - '0'.toNat)
  else if 'a' ≤ c ∧ c ≤ 'f' then some (c.toNat - 'a'.toNat + 10)
  else if 'A' ≤ c ∧ c ≤ 'F' then some (c.toNat - 'A'.toNat + 10)
  else none

/-- The number that a text of digits of one base stands for; one character that is no digit, or
no character at all, stands for nothing. -/
def numberOf? (base : Nat) (digit? : Char → Option Nat) : List Char → Option Nat
  | [] => none
  | c :: cs => (c :: cs).foldlM (fun total d => (digit? d).map (total * base + ·)) 0

end DocPipeline.Text
