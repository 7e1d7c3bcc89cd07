/-
**Instants in universal time.**

* `Instant` — a date, a second of its day and a fraction, with room for a leap second;
* `Instant.text` — `YYYY-MM-DDThh:mm:ssZ` with 0, 3, 6 or 9 digits of fraction;
* `Instant.read?` — a date and a time with their offset from universal time.
-/

import Syllabus.Calendar.Date

namespace Syllabus

/-- The second of a day and its nanoseconds; a leap second is counted on after a minute's last. -/
def IsTime (second nano : Nat) : Prop :=
  second < 86400 ∧ (nano < 1000000000 ∨ (second % 60 = 59 ∧ nano < 2000000000))

instance (second nano : Nat) : Decidable (IsTime second nano) :=
  inferInstanceAs (Decidable (_ ∧ _))

theorem isTime_midnight : IsTime 0 0 := by
  decide

/-- An instant in universal time. -/
structure Instant where
  date : Date
  second : Nat
  nano : Nat
  isTime : IsTime second nano
  deriving DecidableEq

namespace Instant

open Text

/-- The instant at these numbers, if there is one. -/
def of? (date : Date) (second nano : Nat) : Option Instant :=
  if isTime : IsTime second nano then some ⟨date, second, nano, isTime⟩ else none

/-- An instant's own numbers give the instant. -/
@[simp]
theorem of?_self (instant : Instant) :
    of? instant.date instant.second instant.nano = some instant := by
  simp [of?, instant.isTime]

/-! ### Writing -/

/-- A fraction of a second in the fewest of 0, 3, 6 or 9 digits that hold it. -/
def fractionText (nano : Nat) : List Char :=
  if nano = 0 then []
  else if nano % 1000000 = 0 then '.' :: padded 3 (nano / 1000000)
  else if nano % 1000 = 0 then '.' :: padded 6 (nano / 1000)
  else '.' :: padded 9 nano

/-- An instant as a date, `T`, a time and `Z`; a leap second is written as the sixtieth. -/
def text (instant : Instant) : List Char :=
  let leap := instant.nano / 1000000000
  instant.date.text ++ 'T' :: padded 2 (instant.second / 3600) ++
    ':' :: padded 2 (instant.second / 60 % 60) ++
    ':' :: padded 2 (instant.second % 60 + leap) ++
    fractionText (instant.nano % 1000000000) ++ ['Z']

/-! ### Reading -/

/-- The fraction at the front of a text, in nanoseconds: nine digits count, more are passed over. -/
def takeFraction (text : List Char) : Option (Nat × List Char) :=
  match text with
  | '.' :: rest =>
    (takeNumeral 9 rest).map fun (value, after) =>
      (value * Nat.pow 10 (9 - (rest.length - after.length)), after.dropWhile Char.isDigit)
  | rest => some (0, rest)

/-- The time at the front of a text, as second of the day and nanoseconds. The sixtieth second of a
minute is a leap second. -/
def takeTime (text : List Char) : Option ((Nat × Nat) × List Char) := do
  let (hour, text) ← takeNumeral 2 (skipBlanks text)
  let (minute, text) ← Date.takePart ':' text
  let (second, text) ← Date.takePart ':' text
  let (nano, text) ← takeFraction text
  if hour < 24 ∧ minute < 60 ∧ second ≤ 60 then
    let leap := second / 60
    some ((hour * 3600 + minute * 60 + (second - leap), nano + leap * 1000000000), text)
  else none

/-- Two digits at the front of a text. -/
def takeTwoDigits : List Char → Option (Nat × List Char)
  | c :: d :: rest => if c.isDigit ∧ d.isDigit then some (numeralValue [c, d], rest) else none
  | _ => none

/-- Hours and minutes at the front of a text, in seconds, with colons and blanks allowed between
them. -/
def takeHoursMinutes (text : List Char) : Option (Nat × List Char) := do
  let (hours, text) ← takeTwoDigits text
  let (minutes, text) ← takeTwoDigits (text.dropWhile fun c => c == ':' || isBlank c)
  if hours < 24 ∧ minutes < 60 then some (hours * 3600 + minutes * 60, text) else none

/-- The offset from universal time at the front of a text, in seconds: `Z`, `UTC`, or a sign, hours
and minutes. The minus sign may be a hyphen or U+2212. -/
def takeOffset (text : List Char) : Option (Int × List Char) :=
  if (text.take 3).map Char.toUpper = ['U', 'T', 'C'] then some (0, text.drop 3)
  else match text with
    | 'Z' :: rest | 'z' :: rest => some (0, rest)
    | '+' :: rest => (takeHoursMinutes rest).map fun (offset, rest) => ((offset : Int), rest)
    | '-' :: rest | '\u2212' :: rest =>
      (takeHoursMinutes rest).map fun (offset, rest) => (-(offset : Int), rest)
    | _ => none

/-- The instant of a date and time that are `offset` seconds ahead of universal time. -/
def ofLocal? (date : Date) (second nano : Nat) (offset : Int) : Option Instant :=
  let shifted : Int := second - offset
  if shifted < 0 then date.previous?.bind (of? · (shifted + 86400).toNat nano)
  else if shifted < 86400 then of? date shifted.toNat nano
  else date.next?.bind (of? · (shifted - 86400).toNat nano)

/-- A whole text as an instant: a date, one of `T`, `t` and a space, a time and an offset. -/
def read? (text : List Char) : Option Instant := do
  let (date, text) ← Date.take text
  match text with
  | mark :: text =>
    if mark = 'T' ∨ mark = 't' ∨ mark = ' ' then
      let ((second, nano), text) ← takeTime text
      let (offset, text) ← takeOffset (skipBlanks text)
      if skipBlanks text = [] then ofLocal? date second nano offset else none
    else none
  | [] => none

end Instant

end Syllabus
