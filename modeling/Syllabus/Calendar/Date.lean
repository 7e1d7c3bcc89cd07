/-
**Calendar dates.**

* `Date` — a day of the proleptic Gregorian calendar, in the years −262143 to 262142;
* `Date.of?` — the day with these numbers, if there is one;
* `Date.next?`, `Date.previous?` — the neighbouring days;
* `Date.text` — `YYYY-MM-DD`, the year signed when it is not of four digits;
* `Date.read?` — a date as people write it: blanks around its parts, no leading zeros needed.
-/

import Syllabus.Text.Blank
import Syllabus.Text.Numeral

namespace Syllabus

/-- The year has a twenty-ninth of February. -/
def isLeapYear (year : Int) : Bool :=
  year % 4 == 0 && (year % 100 != 0 || year % 400 == 0)

/-- The number of days in a month. -/
def daysInMonth (year : Int) : Nat → Nat
  | 2 => if isLeapYear year then 29 else 28
  | 4 | 6 | 9 | 11 => 30
  | _ => 31

/-- The numbers of a day that the calendar has, in the years that are kept. -/
def IsDay (year : Int) (month day : Nat) : Prop :=
  -262143 ≤ year ∧ year ≤ 262142 ∧ 1 ≤ month ∧ month ≤ 12 ∧ 1 ≤ day ∧ day ≤ daysInMonth year month

instance (year : Int) (month day : Nat) : Decidable (IsDay year month day) :=
  inferInstanceAs (Decidable (_ ∧ _))

/-- A day of the calendar. -/
structure Date where
  year : Int
  month : Nat
  day : Nat
  isDay : IsDay year month day
  deriving DecidableEq

namespace Date

open Text

/-- The day with these numbers, if there is one. -/
def of? (year : Int) (month day : Nat) : Option Date :=
  if isDay : IsDay year month day then some ⟨year, month, day, isDay⟩ else none

/-- A date's own numbers give the date. -/
@[simp]
theorem of?_self (date : Date) : of? date.year date.month date.day = some date := by
  simp [of?, date.isDay]

/-- The day after. -/
def next? (date : Date) : Option Date :=
  (of? date.year date.month (date.day + 1)).or
    ((of? date.year (date.month + 1) 1).or (of? (date.year + 1) 1 1))

/-- The day before. -/
def previous? (date : Date) : Option Date :=
  if 1 < date.day then of? date.year date.month (date.day - 1)
  else if 1 < date.month then
    of? date.year (date.month - 1) (daysInMonth date.year (date.month - 1))
  else of? (date.year - 1) 12 31

/-! ### Writing -/

/-- A year in four digits; with a sign and at least four digits outside the years 0 to 9999. -/
def yearText (year : Int) : List Char :=
  if year < 0 then '-' :: padded 4 year.natAbs
  else if 9999 < year then '+' :: padded 4 year.natAbs
  else padded 4 year.natAbs

/-- A date as `YYYY-MM-DD`. -/
def text (date : Date) : List Char :=
  yearText date.year ++ '-' :: padded 2 date.month ++ '-' :: padded 2 date.day

/-! ### Reading -/

/-- The year at the front of a text: up to four digits, or any number of them after a sign. -/
def takeYear (text : List Char) : Option (Int × List Char) :=
  match skipBlanks text with
  | '-' :: rest => (takeNumeral rest.length rest).map fun (year, rest) => (-(year : Int), rest)
  | '+' :: rest => (takeNumeral rest.length rest).map fun (year, rest) => ((year : Int), rest)
  | rest => (takeNumeral 4 rest).map fun (year, rest) => ((year : Int), rest)

/-- The given mark at the front of a text, after blanks, then a number of up to two digits. -/
def takePart (mark : Char) (text : List Char) : Option (Nat × List Char) :=
  match skipBlanks text with
  | c :: rest => if c = mark then takeNumeral 2 (skipBlanks rest) else none
  | [] => none

/-- The date at the front of a text. -/
def take (text : List Char) : Option (Date × List Char) := do
  let (year, text) ← takeYear text
  let (month, text) ← takePart '-' text
  let (day, text) ← takePart '-' text
  let date ← of? year month day
  return (date, text)

/-- A whole text as a date, blanks allowed around its parts. -/
def read? (text : List Char) : Option Date := do
  let (date, rest) ← take text
  if skipBlanks rest = [] then some date else none

end Date

end Syllabus
