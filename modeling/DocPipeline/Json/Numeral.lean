import DocPipeline.Number.Binary64

/-!
# Numbers of a JSON text

A number is read with the digits that 64 bits hold, from the left; the digits that follow only move
the point. What is held is then multiplied or divided by a power of ten, both of them rounded to a
binary number first and their result rounded again, so a long number may end up next to the binary
number that is nearest to it.

## Main definitions

* `Json.Numeral.scan`: the number at the start of a text.
* `Json.Numeral.real?`: the binary number that a number is read as.
-/

namespace DocPipeline.Json

/-- A number as it is written, `significand * 10 ^ power` with a sign in front. -/
structure Numeral where
  /-- A minus sign stands in front. -/
  negative : Bool
  /-- The leading digits, as many as 64 bits hold. -/
  significand : Nat
  power : Int
  /-- The significand is all that is written: there is no digit left over, no point and no
  exponent. -/
  whole : Bool
deriving DecidableEq, Repr

namespace Numeral

/-! ### From texts -/

/-- The decimal digits at the start of a text, and the rest. -/
def spanDigits (cs : List Char) : List Char × List Char :=
  (cs.takeWhile Char.isDigit, cs.dropWhile Char.isDigit)

/-- A number with one more digit at its end. -/
def append (n : Nat) (digit : Char) : Nat := n * 10 + (digit.toNat - '0'.toNat)

/-- A significand with the digits that follow it, up to the first one that 64 bits do not hold, and
how many digits are left over. -/
def appendFitting (significand : Nat) : List Char → Nat × Nat
  | [] => (significand, 0)
  | digit :: digits =>
    if append significand digit < UInt64.size then
      appendFitting (append significand digit) digits
    else (significand, digits.length + 1)

/-- The digits after a point; without a point there are none, and a point needs one at least. -/
def scanFraction : List Char → Option (List Char × List Char)
  | '.' :: rest =>
    let (digits, rest) := spanDigits rest
    if digits.isEmpty then none else some (digits, rest)
  | rest => some ([], rest)

/-- The digits of an exponent behind its sign, of which there is one at least. -/
def scanExponentDigits (negative : Bool) (cs : List Char) : Option (Option Int × List Char) :=
  let (digits, rest) := spanDigits cs
  if digits.isEmpty then none
  else
    let size := digits.foldl append 0
    some (some (if negative then -(size : Int) else size), rest)

/-- The exponent, if one is written. -/
def scanExponent : List Char → Option (Option Int × List Char)
  | c :: rest =>
    if c = 'e' ∨ c = 'E' then
      match rest with
      | '+' :: rest => scanExponentDigits false rest
      | '-' :: rest => scanExponentDigits true rest
      | rest => scanExponentDigits false rest
    else some (none, c :: rest)
  | [] => some (none, [])

/-- The number that digits before and after a point and an exponent write. A digit left over before
the point moves it to the right, one held behind the point moves it to the left. -/
def ofParts (negative : Bool) (whole fraction : List Char) (exponent : Option Int) : Numeral :=
  let (significand, leftOver) := appendFitting 0 whole
  let (significand, unread) := appendFitting significand fraction
  { negative, significand
    power := leftOver - (fraction.length - unread : Nat) + exponent.getD 0
    whole := leftOver = 0 ∧ fraction.isEmpty ∧ exponent.isNone }

/-- A number without its sign: digits without a leading zero, then a fraction, then an
exponent. -/
def scanUnsigned (negative : Bool) (cs : List Char) : Option (Numeral × List Char) := do
  let (whole, rest) := spanDigits cs
  if whole.isEmpty ∨ (whole.head? = some '0' ∧ 1 < whole.length) then none
  else
    let (fraction, rest) ← scanFraction rest
    let (exponent, rest) ← scanExponent rest
    some (ofParts negative whole fraction exponent, rest)

/-- The number at the start of a text, and the rest. -/
def scan : List Char → Option (Numeral × List Char)
  | '-' :: rest => scanUnsigned true rest
  | rest => scanUnsigned false rest

/-! ### As binary numbers -/

/-- The greatest exponent at which a power of ten is in the range of 64 bits. -/
def powerLimit : Nat := 308

/-- A power of ten, rounded. -/
def powerOfTen (exponent : Nat) : Binary64 := .round false ⟨Nat.pow 10 exponent, 1⟩

/-- A significand times a power of ten. One beyond the range is refused. -/
def raise? (start : Binary64) (power : Nat) : Option Binary64 :=
  if start.significand = 0 then some start
  else if power ≤ powerLimit ∧ (start.mul (powerOfTen power)).isFinite then
    some (start.mul (powerOfTen power))
  else none

/-- A significand divided by a power of ten, in two steps where one power does not reach. Two steps
leave nothing of a number of 64 bits unless the second is short. -/
def lower (start : Binary64) (power : Nat) : Binary64 :=
  (start.div (powerOfTen (min power powerLimit))).div
    (powerOfTen (min (power - powerLimit) powerLimit))

/-- The binary number that a number is read as; one beyond the range is refused. -/
def real? (n : Numeral) : Option Binary64 :=
  let start := Binary64.round n.negative ⟨n.significand, 1⟩
  if 0 ≤ n.power then raise? start n.power.toNat else some (lower start (-n.power).toNat)

end Numeral

end DocPipeline.Json
