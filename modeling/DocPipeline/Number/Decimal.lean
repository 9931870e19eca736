import DocPipeline.Number.Binary64

/-!
# Decimal numbers

How a binary number is written: with the fewest decimal digits that are read as that number again,
and of those the ones nearest to it.

## Main definitions

* `Decimal.nearest`: the binary number that decimal digits are read as.
* `Binary64.shortest`: the fewest digits that are read as a number.
* `Decimal.toText`: decimal digits as a text.
-/

namespace DocPipeline

/-- The number `digits * 10 ^ exponent` with a sign in front; zero has a sign too. -/
structure Decimal where
  negative : Bool
  digits : Nat
  exponent : Int
deriving DecidableEq, Repr

namespace Decimal

/-- The binary number nearest to a decimal one. -/
def nearest (d : Decimal) : Binary64 :=
  .round d.negative ((Ratio.mk d.digits 1).scale 10 d.exponent)

/-- A decimal number as a text: positional and with a point from `10 ^ (-5)` up to but not including
`10 ^ 16`; with an exponent beyond these, and with a point behind the first digit if there are
more. -/
def toText (d : Decimal) : String :=
  let digits := Nat.toDigits 10 d.digits
  let point := digits.length + d.exponent
  let body :=
    if 0 ≤ d.exponent ∧ point ≤ 16 then
      digits ++ List.replicate d.exponent.toNat '0' ++ ['.', '0']
    else if 0 < point ∧ point ≤ 16 then
      digits.take point.toNat ++ '.' :: digits.drop point.toNat
    else if -5 < point ∧ point ≤ 0 then
      '0' :: '.' :: List.replicate (-point).toNat '0' ++ digits
    else
      digits.take 1 ++ (if digits.length ≤ 1 then [] else '.' :: digits.drop 1) ++
        'e' :: (toString (point - 1)).toList
  String.ofList (if d.negative then '-' :: body else body)

end Decimal

namespace Binary64

/-- The number of decimal digits of a natural number, less one. -/
def logTen (n : Nat) : Nat := (Nat.toDigits 10 n).length - 1

/-- The exponent at which a number other than zero has `count` decimal digits. -/
def exponentOf (x : Binary64) (count : Nat) : Int :=
  x.magnitude.floorLog 10 logTen + 1 - count

/-- A number of `count` digits as a decimal one. Ten to the power of `count` has one more, all but
the first zero. -/
def ofGrid (x : Binary64) (count digits : Nat) : Decimal :=
  if digits = Nat.pow 10 count then ⟨x.negative, 1, exponentOf x count + count⟩
  else ⟨x.negative, digits, exponentOf x count⟩

/-- A number other than zero, counted in units of its last of `count` digits. -/
def inUnits (x : Binary64) (count : Nat) : Ratio :=
  x.magnitude.scale 10 (-exponentOf x count)

/-- The decimal number of `count` digits that is nearest to `x` among those read as `x`. The numbers
read as `x` lie around it, so one of the two next to `x` is among them if any is. -/
def withDigits? (x : Binary64) (count : Nat) : Option Decimal :=
  let units := x.inUnits count
  [units.nearest, units.floor, units.floor + 1].map (ofGrid x count) |>.find? (·.nearest = x)

/-- The decimal number with the fewest digits that is read as `x`, and the nearest to `x` of those.
With seventeen digits the nearest one is always read as `x`. -/
def shortest (x : Binary64) : Decimal :=
  if x.significand = 0 then ⟨x.negative, 0, 0⟩
  else ((List.range 16).findSome? fun k => x.withDigits? (k + 1)).getD
    (ofGrid x 17 (x.inUnits 17).nearest)

/-- A number as a text, in the fewest digits. -/
def toText (x : Binary64) : String := x.shortest.toText

end Binary64

end DocPipeline
