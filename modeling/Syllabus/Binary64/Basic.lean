/-
**Double-precision numbers as bits.**

* `Binary64` — a double as its 64 bits;
* `Binary64.same` — equality as IEEE 754 compares: a NaN differs from itself, the two zeros agree;
* `Binary64.nearest` — the double nearest to a quotient of numbers, a tie going to the even one.
-/

namespace Syllabus

/-- A double-precision number as its 64 bits. -/
structure Binary64 where
  bits : UInt64
  deriving DecidableEq

namespace Binary64

/-- The weight of the sign bit. -/
def signWeight : Nat := Nat.pow 2 63

/-- The weight of the lowest exponent bit; the fraction stays below it. -/
def exponentWeight : Nat := Nat.pow 2 52

/-- The exponent bits of infinities and NaNs, all of them set. -/
def specialExponent : Nat := 2047

/-- The sign bit. -/
def isNegative (x : Binary64) : Bool :=
  signWeight ≤ x.bits.toNat

/-- The eleven exponent bits. -/
def biasedExponent (x : Binary64) : Nat :=
  x.bits.toNat / exponentWeight % (specialExponent + 1)

/-- The 52 fraction bits. -/
def fraction (x : Binary64) : Nat :=
  x.bits.toNat % exponentWeight

/-- Not a number. -/
def isNaN (x : Binary64) : Bool :=
  x.biasedExponent == specialExponent && x.fraction != 0

/-- One of the two infinities. -/
def isInfinite (x : Binary64) : Bool :=
  x.biasedExponent == specialExponent && x.fraction == 0

/-- Neither an infinity nor a NaN. -/
def isFinite (x : Binary64) : Bool :=
  x.biasedExponent != specialExponent

/-- One of the two zeros. -/
def isZero (x : Binary64) : Bool :=
  x.biasedExponent == 0 && x.fraction == 0

/-- Equality as IEEE 754 compares: a NaN differs from itself, the two zeros agree. -/
def same (x y : Binary64) : Bool :=
  !x.isNaN && !y.isNaN && (x.bits == y.bits || (x.isZero && y.isZero))

/-- The whole number `m` in `± m · 2 ^ exponent`, the value of a finite double. -/
def significand (x : Binary64) : Nat :=
  if x.biasedExponent = 0 then x.fraction else x.fraction + exponentWeight

/-- The power of two in `± significand · 2 ^ exponent`, the value of a finite double. -/
def exponent (x : Binary64) : Int :=
  (max 1 x.biasedExponent : Int) - 1075

/-- The double with these parts. -/
def ofParts (negative : Bool) (magnitude : Nat) : Binary64 :=
  ⟨(magnitude + if negative then signWeight else 0).toUInt64⟩

/-- Zero, of either sign. -/
def zero (negative : Bool) : Binary64 :=
  ofParts negative 0

/-- Infinity, of either sign. -/
def infinity (negative : Bool) : Binary64 :=
  ofParts negative (specialExponent * exponentWeight)

/-- The usual NaN. -/
def nan : Binary64 :=
  ofParts false (specialExponent * exponentWeight + exponentWeight / 2)

/-- A quotient of numbers, rounded to the nearest number, a tie going to the even one. -/
def roundedQuotient (numerator denominator : Nat) : Nat :=
  let quotient := numerator / denominator
  let twice := 2 * (numerator % denominator)
  if denominator < twice ∨ (denominator = twice ∧ quotient % 2 = 1) then quotient + 1 else quotient

/-- The power of two that leaves a quotient with 53 binary digits before the point, or the least
power a double has. -/
def scale (numerator denominator : Nat) : Int :=
  let rough := (numerator.log2 : Int) - (denominator.log2 : Int) - 52
  -- The quotient has 53 or 52 digits at the rough power, so one correction is enough.
  let power :=
    if numerator * Nat.pow 2 (-rough).toNat < denominator * Nat.pow 2 rough.toNat * exponentWeight
      then rough - 1 else rough
  max power (-1074)

/-- The double nearest to a quotient, a tie going to the even one. -/
def nearest (negative : Bool) (numerator denominator : Nat) : Binary64 :=
  if numerator = 0 then zero negative
  else
    let power := scale numerator denominator
    let rounded :=
      roundedQuotient (numerator * Nat.pow 2 (-power).toNat) (denominator * Nat.pow 2 power.toNat)
    -- Rounding up to the next power of two carries into the exponent.
    let magnitude := rounded + (power + 1074).toNat * exponentWeight
    if specialExponent * exponentWeight ≤ magnitude then infinity negative
    else ofParts negative magnitude

/-- The order in which two doubles are compared does not matter. -/
theorem same_comm (x y : Binary64) : same x y = same y x := by
  simp only [same, Bool.and_comm, BEq.comm]

end Binary64

end Syllabus
