import DocPipeline.Number.Ratio

/-!
# Binary numbers of 64 bits

Numbers with a sign, 53 binary digits and a power of two, as they are computed with: every result is
the exact one rounded to the nearest number of this kind, half way to the one whose last digit is
even.

Powers have a least value, and at that value leading digits may be zero. They have no greatest value
here; a number beyond the range of 64 bits is told by `Binary64.isFinite`.

## Main definitions

* `Binary64.round`: the nearest number to a ratio.
* `Binary64.mul`, `Binary64.div`: products and quotients.
-/

namespace DocPipeline

/-- The number `significand * 2 ^ power` with a sign in front; zero has a sign too. -/
structure Binary64 where
  negative : Bool
  significand : Nat
  power : Int
  significand_lt : significand < Nat.pow 2 53 := by decide
  le_power : -1074 ≤ power := by decide
deriving DecidableEq, Repr

namespace Binary64

/-- Zero with a sign. -/
def zero (negative : Bool) : Binary64 := { negative, significand := 0, power := -1074 }

/-- The power of two at which a ratio other than zero has 53 binary digits, or the least power if
it has fewer there. -/
def powerOf (r : Ratio) : Int := max (r.floorLog 2 Nat.log2 - 52) (-1074)

/-- The number nearest to a ratio, with a sign. Where rounding takes it to the next power of two, so
does the power. -/
def round (negative : Bool) (r : Ratio) : Binary64 :=
  if r.num = 0 then zero negative
  else
    let significand := (r.scale 2 (-powerOf r)).nearest
    if h : significand < Nat.pow 2 53 then
      { negative, significand, power := powerOf r, significand_lt := h
        le_power := Int.le_max_right .. }
    else
      { negative, significand := Nat.pow 2 52, power := powerOf r + 1
        le_power := Int.le_trans (Int.le_max_right ..) (Int.le_add_one (Int.le_refl _)) }

/-- An integer, rounded. -/
def ofInt (n : Int) : Binary64 := round (decide (n < 0)) ⟨n.natAbs, 1⟩

/-- A number without its sign, exactly. -/
def magnitude (x : Binary64) : Ratio := (Ratio.mk x.significand 1).scale 2 x.power

/-- A product, rounded. -/
def mul (x y : Binary64) : Binary64 :=
  round (x.negative != y.negative)
    ⟨x.magnitude.num * y.magnitude.num, x.magnitude.den * y.magnitude.den⟩

/-- A quotient, rounded. -/
def div (x y : Binary64) : Binary64 :=
  round (x.negative != y.negative)
    ⟨x.magnitude.num * y.magnitude.den, x.magnitude.den * y.magnitude.num⟩

/-- A number within the range of 64 bits. -/
def isFinite (x : Binary64) : Bool := decide (x.power ≤ 971)

end Binary64

end DocPipeline
