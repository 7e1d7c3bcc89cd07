/-
**Products and quotients of doubles.**

* `Binary64.product`, `Binary64.quotient` — the exact result for two doubles, rounded once;
* `Binary64.powerOfTen` — the double nearest to a power of ten.
-/

import Syllabus.Binary64.Basic

namespace Syllabus.Binary64

/-- The double nearest to `numerator / denominator · 2 ^ power`. -/
def nearestShifted (negative : Bool) (numerator denominator : Nat) (power : Int) : Binary64 :=
  nearest negative (numerator * Nat.pow 2 power.toNat) (denominator * Nat.pow 2 (-power).toNat)

/-- The product of two finite doubles, rounded once. -/
def product (x y : Binary64) : Binary64 :=
  nearestShifted (x.isNegative ^^ y.isNegative) (x.significand * y.significand) 1
    (x.exponent + y.exponent)

/-- The quotient of two finite doubles, the second of them not zero, rounded once. -/
def quotient (x y : Binary64) : Binary64 :=
  nearestShifted (x.isNegative ^^ y.isNegative) x.significand y.significand
    (x.exponent - y.exponent)

/-- The double nearest to a power of ten. -/
def powerOfTen (power : Nat) : Binary64 :=
  nearest false (Nat.pow 10 power) 1

end Syllabus.Binary64
