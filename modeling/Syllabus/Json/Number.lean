/-
**Numbers in JSON texts.**

Numbers are read with limited precision. Of the digits only those are kept that fit a word of 64
bits together, and the number kept is then multiplied or divided by a power of ten as a double.

* `Draft.keepDigits` — the digits that fit, and the ones that are dropped;
* `Draft.whole`, `Draft.scaled` — the value of a number without and with a power of ten;
* `Draft.takeNumber` — the number at the front of a text.
-/

import Syllabus.Binary64.Arithmetic
import Syllabus.Json.Draft
import Syllabus.Text.Numeral

namespace Syllabus.Draft

open Text

/-! ### Digits -/

/-- The number that digits make behind the digits of `kept`, as far as it fits a word of 64 bits,
and the digits from the first one that does not fit. -/
def keepDigits : Nat → List Char → Nat × List Char
  | kept, [] => (kept, [])
  | kept, c :: digits =>
    let longer := 10 * kept + (c.toNat - '0'.toNat)
    if longer < UInt64.size then keepDigits longer digits else (kept, c :: digits)

/-! ### Values -/

/-- The value of a number without fraction, exponent and dropped digits. Minus zero and numbers
below those of 64 bits are doubles. -/
def whole (negative : Bool) (digits : Nat) : Draft :=
  if ¬ negative then .integer digits
  else if 0 < digits ∧ Int64.minValue.toInt ≤ -digits then .integer (-digits)
  else .decimal (Binary64.nearest negative digits 1)

/-- The value of a number with a power of ten. It takes one multiplication or division, or two
divisions where the power is below those of doubles. -/
def scaled (negative : Bool) (digits : Nat) (power : Int) : Draft :=
  let start := Binary64.nearest negative digits 1
  if 0 ≤ power then
    if digits = 0 then .decimal start
    else if 308 < power then .outOfRange
    else
      let value := start.product (Binary64.powerOfTen power.toNat)
      if value.isInfinite then .outOfRange else .decimal value
  else
    let places := (-power).toNat
    if places ≤ 308 then .decimal (start.quotient (Binary64.powerOfTen places))
    else if places ≤ 616 then
      .decimal ((start.quotient (Binary64.powerOfTen 308)).quotient
        (Binary64.powerOfTen (places - 308)))
    else .decimal (Binary64.zero negative)

/-! ### Texts -/

/-- The exponent at the front of a text, if there is one; none where it has no digits. -/
def takeExponent : List Char → Option (Option Int × List Char)
  | c :: rest =>
    if c = 'e' ∨ c = 'E' then
      let (below, rest) := match rest with
        | '-' :: rest => (true, rest)
        | '+' :: rest => (false, rest)
        | rest => (false, rest)
      (takeNumeral rest.length rest).map fun (power, rest) =>
        (some (if below then -(power : Int) else power), rest)
    else some (none, c :: rest)
  | [] => some (none, [])

/-- The number at the front of a text, after its sign. A digit dropped before the point counts as
a power of ten, and one dropped after it for nothing; behind dropped digits the digits of a
fraction are kept again as far as they fit. -/
def takeNumber (negative : Bool) (text : List Char) : Option (Draft × List Char) :=
  let digits := text.takeWhile Char.isDigit
  let rest := text.dropWhile Char.isDigit
  let (kept, dropped) := keepDigits 0 digits
  if digits = [] ∨ (digits.head? = some '0' ∧ digits.length ≠ 1) then none
  else match rest with
    | '.' :: rest => do
      let fraction := rest.takeWhile Char.isDigit
      if fraction = [] then none
      let (power, rest) ← takeExponent (rest.dropWhile Char.isDigit)
      let (kept, ignored) := keepDigits kept fraction
      let places : Int := fraction.length - ignored.length
      return (scaled negative kept (dropped.length - places + power.getD 0), rest)
    | rest => do
      let (power, rest) ← takeExponent rest
      if power.isNone ∧ dropped = [] then return (whole negative kept, rest)
      else return (scaled negative kept (dropped.length + power.getD 0), rest)

end Syllabus.Draft
