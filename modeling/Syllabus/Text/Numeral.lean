/-
**Decimal numerals.**

* `numeral` — the digits of a number, without leading zeros;
* `padded` — the same, filled up with zeros on the left;
* `numeralValue` — the number that a run of digits stands for;
* `takeNumeral` — the number at the front of a text, with a limit on its digits;
* `unsigned?` — a whole text as a number up to a bound, with a plus sign allowed.
-/

namespace Syllabus.Text

/-- The number that a run of decimal digits stands for. -/
def numeralValue (digits : List Char) : Nat :=
  digits.foldl (fun value c => 10 * value + (c.toNat - '0'.toNat)) 0

/-- The decimal digits of a number, without leading zeros. -/
def numeral (n : Nat) : List Char :=
  Nat.toDigits 10 n

/-- The decimal digits of a number, filled up with zeros to at least `width` digits. -/
def padded (width n : Nat) : List Char :=
  List.replicate (width - (numeral n).length) '0' ++ numeral n

/-- The decimal digits of an integer, after a minus sign if it is negative. -/
def integerNumeral : Int → List Char
  | .ofNat n => numeral n
  | .negSucc n => '-' :: numeral (n + 1)

/-- The number at the front of a text, of one to `most` digits, and the text after it. -/
def takeNumeral (most : Nat) (text : List Char) : Option (Nat × List Char) :=
  match (text.take most).takeWhile Char.isDigit with
  | [] => none
  | digits => some (numeralValue digits, text.drop digits.length)

/-- A text without the plus sign it may start with. -/
def dropPlus : List Char → List Char
  | '+' :: rest => rest
  | text => text

/-- A whole text as a number up to `bound`: digits, with one plus sign allowed before them. -/
def unsigned? (bound : Nat) (text : List Char) : Option Nat :=
  let digits := dropPlus text
  if digits ≠ [] ∧ digits.all Char.isDigit ∧ numeralValue digits ≤ bound then
    some (numeralValue digits)
  else none

end Syllabus.Text
