/-
**Milliseconds since 1970 on the calendar.**

* `civilDay` — year, month and day of a day counted from 1 January 1970;
* `clockText` — a number of milliseconds since 1970 as date, time and offset.
-/

import Syllabus.Text.Numeral

namespace Syllabus

open Text

/-- Year, month and day of a day counted from 1 January 1970. Eras of 400 years have the same
length, and years are counted from March, so that a leap day comes last. -/
def civilDay (days : Int) : Int × Nat × Nat :=
  let shifted := days + 719468
  let era := shifted / 146097
  let dayOfEra := (shifted % 146097).toNat
  let yearOfEra := (dayOfEra - dayOfEra / 1460 + dayOfEra / 36524 - dayOfEra / 146096) / 365
  let dayOfYear := dayOfEra - (365 * yearOfEra + yearOfEra / 4 - yearOfEra / 100)
  let fromMarch := (5 * dayOfYear + 2) / 153
  let day := dayOfYear - (153 * fromMarch + 2) / 5 + 1
  let month := if fromMarch < 10 then fromMarch + 3 else fromMarch - 9
  (yearOfEra + era * 400 + (if month ≤ 2 then 1 else 0), month, day)

/-- Thousandths of a second without zeros at the end, but with one digit at least. -/
def thousandthsText (thousandths : Nat) : List Char :=
  match ((padded 3 thousandths).reverse.dropWhile (· == '0')).reverse with
  | [] => ['0']
  | digits => digits

/-- Milliseconds since 1970 as `1970-01-01 0:00:00.0 +00:00:00`; the bare number where the year has
more than six digits. -/
def clockText (millis : Int) : List Char :=
  let (year, month, day) := civilDay (millis / 86400000)
  let second := (millis % 86400000).toNat / 1000
  let yearText :=
    if year < 0 then '-' :: padded 4 year.natAbs
    else if 9999 < year then '+' :: padded 4 year.natAbs
    else padded 4 year.natAbs
  if year.natAbs ≤ 999999 then
    yearText ++ '-' :: padded 2 month ++ '-' :: padded 2 day ++ ' ' :: numeral (second / 3600) ++
      ':' :: padded 2 (second / 60 % 60) ++ ':' :: padded 2 (second % 60) ++
      '.' :: thousandthsText ((millis % 1000).toNat) ++ " +00:00:00".toList
  else integerNumeral millis

end Syllabus
