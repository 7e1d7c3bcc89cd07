/-
**Doubles in decimal.**

* `Binary64.shortest` — the fewest decimal digits that read back as a double;
* `Binary64.positional` — its text with those digits, without an exponent;
* `Binary64.concise` — its text with those digits, with an exponent where it is far from one;
* `Binary64.ofDecimal` — the double nearest to a decimal number;
* `Binary64.ofText?` — the double a text names.
-/

import Syllabus.Binary64.Basic
import Syllabus.Text.Numeral

namespace Syllabus.Binary64

open Text

/-! ### From decimal to double -/

/-- The double nearest to `digits · 10 ^ power`. -/
def ofDecimal (negative : Bool) (digits : Nat) (power : Int) : Binary64 :=
  let places : Int := (numeral digits).length + power
  if digits = 0 then zero negative
  -- Far outside the range of doubles the power of ten need not be computed.
  else if 400 < places then infinity negative
  else if places < -400 then zero negative
  else nearest negative (digits * Nat.pow 10 power.toNat) (Nat.pow 10 (-power).toNat)

/-- A text of digits, a point and digits, and an exponent, the last two optional. -/
def ofDigits? (negative : Bool) (text : List Char) : Option Binary64 :=
  let whole := text.takeWhile Char.isDigit
  let afterWhole := text.dropWhile Char.isDigit
  let (fraction, afterFraction) := match afterWhole with
    | '.' :: rest => (rest.takeWhile Char.isDigit, rest.dropWhile Char.isDigit)
    | rest => ([], rest)
  let digits := whole ++ fraction
  let point : Int := fraction.length
  if digits.isEmpty then none
  else match afterFraction with
    | [] => some (ofDecimal negative (numeralValue digits) (-point))
    | e :: rest =>
      if e ≠ 'e' ∧ e ≠ 'E' then none
      else
        let (below, power) := match rest with
          | '-' :: power => (true, power)
          | '+' :: power => (false, power)
          | power => (false, power)
        if power.isEmpty ∨ ¬ power.all Char.isDigit then none
        else
          let shift : Int := if below then -numeralValue power else numeralValue power
          some (ofDecimal negative (numeralValue digits) (shift - point))

/-- The double a text names: a decimal number, an infinity or NaN, after an optional sign. -/
def ofText? (text : List Char) : Option Binary64 :=
  let (negative, body) := match text with
    | '-' :: body => (true, body)
    | '+' :: body => (false, body)
    | body => (false, body)
  let word := String.ofList (body.map Char.toLower)
  if word = "nan" then some nan
  else if word = "inf" ∨ word = "infinity" then some (infinity negative)
  else ofDigits? negative body

/-! ### From double to decimal -/

/-- The power of ten of the leading decimal digit of a quotient. -/
def leadingPower (numerator denominator : Nat) : Int :=
  -- Four hundred extra places make the quotient at least one for every double.
  ((numeral (numerator * Nat.pow 10 400 / denominator)).length : Int) - 401

/-- Where a value halfway between two points of a grid goes. -/
inductive Tie where
  | even
  | up
  deriving DecidableEq

/-- The digits nearest to `4 · m · 2 ^ (q - 2)` on the grid of multiples of `10 ^ step`, if that
point reads back as `m · 2 ^ q`. -/
def onGrid (tie : Tie) (m : Nat) (q step : Int) : Option Nat :=
  -- The value and the ends of its rounding interval, in units of `2 ^ (q - 2)`.
  let lower := if m = exponentWeight ∧ -1074 < q then 4 * m - 1 else 4 * m - 2
  let upper := 4 * m + 2
  let unit := Nat.pow 2 (q - 2).toNat * Nat.pow 10 (-step).toNat
  let grid := Nat.pow 10 step.toNat * Nat.pow 2 (2 - q).toNat
  let reads (d : Nat) : Bool :=
    if m % 2 = 0 then lower * unit ≤ d * grid && d * grid ≤ upper * unit
    else lower * unit < d * grid && d * grid < upper * unit
  let value := 4 * m * unit
  let below := value / grid
  match reads below, reads (below + 1) with
  | true, true =>
    let twice := 2 * (value - below * grid)
    some (if twice < grid ∨ (twice = grid ∧ tie = .even ∧ below % 2 = 0) then below else below + 1)
  | true, false => some below
  | false, true => some (below + 1)
  | false, false => none

/-- The first grid, of `count` digits and more, with a point that reads back. -/
def firstGrid (tie : Tie) (m : Nat) (q leading : Int) : Nat → Nat → Nat × Int
  | 0, _ => (m, 0)
  | tries + 1, count =>
    let step := leading - (count : Int) + 1
    match onGrid tie m q step with
    | some digits => (digits, step)
    | none => firstGrid tie m q leading tries (count + 1)

/-- The fewest digits and the power of ten `digits · 10 ^ power` that read back as a finite double
other than zero, and of those the nearest. Seventeen digits are always enough. -/
def shortest (tie : Tie) (x : Binary64) : Nat × Int :=
  let m := x.significand
  let q := x.exponent
  firstGrid tie m q (leadingPower (m * Nat.pow 2 q.toNat) (Nat.pow 2 (-q).toNat)) 17 1

/-- `digits · 10 ^ power` written out, with a fraction of `.0` added to whole numbers on demand. -/
def writtenOut (forced : Bool) (digits : Nat) (power : Int) : List Char :=
  let whole (text : List Char) := if forced then text ++ ['.', '0'] else text
  let text := numeral digits
  if 0 ≤ power then whole (text ++ List.replicate power.toNat '0')
  else
    let places := (-power).toNat
    let filled := List.replicate (places + 1 - text.length) '0' ++ text
    let before := filled.take (filled.length - places)
    -- A grid point of fewer digits is found first, so only a carry leaves zeros at the end.
    match ((filled.drop (filled.length - places)).reverse.dropWhile (· == '0')).reverse with
    | [] => whole before
    | fraction => before ++ '.' :: fraction

/-- The text of a double with the fewest digits that read back and no exponent. A tie goes up. -/
def positional (forced : Bool) (x : Binary64) : List Char :=
  if x.isNaN then "NaN".toList
  else
    let sign := if x.isNegative then ['-'] else []
    if x.isInfinite then sign ++ "inf".toList
    else if x.isZero then sign ++ writtenOut forced 0 0
    else
      let (digits, power) := x.shortest .up
      sign ++ writtenOut forced digits power

/-- The text of a finite double with the fewest digits that read back, a tie going to the even
digit: written out from `10 ^ -5` to below `10 ^ 16`, and with an exponent elsewhere. -/
def concise (x : Binary64) : List Char :=
  let sign := if x.isNegative then ['-'] else []
  if x.isZero then sign ++ writtenOut true 0 0
  else
    let (digits, power) := x.shortest .even
    let leading := ((numeral digits).length : Int) + power - 1
    if -5 ≤ leading ∧ leading < 16 then sign ++ writtenOut true digits power
    else
      let mantissa := writtenOut false digits (power - leading)
      sign ++ mantissa ++ 'e' :: integerNumeral leading

end Syllabus.Binary64
