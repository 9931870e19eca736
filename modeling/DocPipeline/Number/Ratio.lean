/-!
# Ratios of natural numbers

Rounding a ratio to a natural number, moving it by powers of a base, and its order of magnitude.
These are the steps in which numbers are rounded to a fixed count of digits, binary or decimal.

## Main definitions

* `Ratio.nearest`: the nearest natural number.
* `Ratio.floorLog`: the order of magnitude to a base.

## Main results

* `Ratio.nearest_near`: rounding moves a ratio by half at most.
-/

namespace DocPipeline

/-- A ratio of natural numbers, not reduced. -/
structure Ratio where
  num : Nat
  den : Nat
deriving DecidableEq, Repr

namespace Ratio

/-- The natural number below a ratio. -/
def floor (r : Ratio) : Nat := r.num / r.den

/-- The natural number nearest to a ratio; half way between two of them, the even one. -/
def nearest (r : Ratio) : Nat :=
  let twice := 2 * (r.num % r.den)
  if r.den < twice ∨ (twice = r.den ∧ r.floor % 2 = 1) then r.floor + 1 else r.floor

/-- A ratio times a power of a base. -/
def scale (r : Ratio) (base : Nat) (power : Int) : Ratio :=
  ⟨r.num * Nat.pow base power.toNat, r.den * Nat.pow base (-power).toNat⟩

/-- The exponent of the greatest power of a base that does not exceed a ratio other than zero. `log`
gives it for natural numbers; those of numerator and denominator tell that of the ratio but for
one. -/
def floorLog (r : Ratio) (base : Nat) (log : Nat → Nat) : Int :=
  let guess := (log r.num : Int) - log r.den
  let moved := r.scale base (-guess)
  if moved.num < moved.den then guess - 1 else guess

/-- Rounding moves a ratio by half at most. -/
theorem nearest_near (r : Ratio) (h : 0 < r.den) :
    2 * r.num ≤ 2 * (r.nearest * r.den) + r.den ∧ 2 * (r.nearest * r.den) ≤ 2 * r.num + r.den := by
  have split : r.floor * r.den + r.num % r.den = r.num := by
    rw [floor, Nat.mul_comm]; exact Nat.div_add_mod r.num r.den
  have small : r.num % r.den < r.den := Nat.mod_lt _ h
  simp only [nearest]
  split
  · rw [Nat.add_mul, Nat.one_mul]; omega
  · omega

end Ratio

end DocPipeline
