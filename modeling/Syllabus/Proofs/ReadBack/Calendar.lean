/-
**Dates and instants are read back as they are written.**

* `takeNumeral_append` — a run of digits is taken off the front of a text, if the text goes on with
  no digit or the run is as long as allowed;
* **`Date.read?_text`** — every date, whatever its year;
* **`Instant.read?_text`** — every instant, leap seconds and all lengths of fractions included.
-/

import Mathlib.Algebra.Group.Nat.Defs
import Syllabus.Calendar.Instant

namespace Syllabus

open Text

/-! ### Numerals -/

namespace Text

theorem numeralValue_eq_ofDigitChars (digits : List Char) :
    numeralValue digits = Nat.ofDigitChars 10 digits 0 :=
  (Nat.ofDigitChars_eq_foldl).symm

/-- **A number filled up with zeros is read back.** -/
theorem numeralValue_padded (width n : Nat) : numeralValue (padded width n) = n := by
  rw [numeralValue_eq_ofDigitChars, padded, Nat.ofDigitChars_append,
    Nat.ofDigitChars_replicate_zero, Nat.mul_zero, numeral, Nat.ofDigitChars_ten_toDigits]

theorem isDigit_of_mem_padded (width n : Nat) {c : Char} (member : c ∈ padded width n) :
    c.isDigit = true := by
  rcases List.mem_append.mp member with zero | digit
  · rw [List.eq_of_mem_replicate zero]
    rfl
  · exact Nat.isDigit_of_mem_toDigits (by omega) (by omega) digit

theorem padded_ne_nil (width n : Nat) : padded width n ≠ [] := by
  simp [padded, numeral, Nat.toDigits_ne_nil]

/-- A number that fits its width fills it. -/
theorem length_padded {width n : Nat} (positive : 0 < width) (fits : n < 10 ^ width) :
    (padded width n).length = width := by
  have short : (numeral n).length ≤ width :=
    (Nat.length_toDigits_le_iff (by omega) positive).mpr fits
  simp only [padded, List.length_append, List.length_replicate]
  omega

/-- No digit is blank. -/
theorem isBlank_of_isDigit {c : Char} (digit : c.isDigit = true) : isBlank c = false := by
  simp only [Char.isDigit, Bool.and_eq_true, decide_eq_true_eq, UInt32.le_iff_toNat_le] at digit
  have low : 48 ≤ c.toNat := digit.1
  have high : c.toNat ≤ 57 := digit.2
  simp only [isBlank, Bool.or_eq_false_iff, Bool.and_eq_false_imp, decide_eq_true_eq,
    decide_eq_false_iff_not, beq_eq_false_iff_ne]
  omega

/-- A number filled up with zeros starts with no blank. -/
theorem skipBlanks_padded (width n : Nat) (rest : List Char) :
    skipBlanks (padded width n ++ rest) = padded width n ++ rest := by
  obtain ⟨c, digits, split⟩ := List.exists_cons_of_ne_nil (padded_ne_nil width n)
  have digit : c.isDigit = true :=
    isDigit_of_mem_padded width n (by rw [split]; exact List.mem_cons_self)
  rw [split, List.cons_append, skipBlanks_cons_of_not_blank _ (isBlank_of_isDigit digit)]

/-- **A run of digits is taken off the front of a text.** It ends where no digit follows or where
no more are allowed. -/
theorem takeNumeral_append {most : Nat} {digits rest : List Char} (some_digits : digits ≠ [])
    (all_digits : ∀ c ∈ digits, c.isDigit = true) (allowed : digits.length ≤ most)
    (ends : (rest.take (most - digits.length)).takeWhile Char.isDigit = []) :
    takeNumeral most (digits ++ rest) = some (numeralValue digits, rest) := by
  have front : ((digits ++ rest).take most).takeWhile Char.isDigit = digits := by
    rw [List.take_append, List.take_of_length_le allowed,
      List.takeWhile_append_of_pos all_digits, ends, List.append_nil]
  unfold takeNumeral
  rw [front]
  cases digits with
  | nil => exact absurd rfl some_digits
  | cons c digits => simp

/-- A number in a fixed width is taken off the front of any text. -/
theorem takeNumeral_padded (width n : Nat) (positive : 0 < width) (fits : n < 10 ^ width)
    (rest : List Char) : takeNumeral width (padded width n ++ rest) = some (n, rest) := by
  have filled := length_padded positive fits
  rw [takeNumeral_append (padded_ne_nil width n) (fun c => isDigit_of_mem_padded width n)
    (Nat.le_of_eq filled) (by simp [filled]), numeralValue_padded]

/-- A number is taken off the front of a text that goes on with another character. -/
theorem takeNumeral_padded_cons {width n most : Nat} {c : Char} {rest : List Char}
    (other : c.isDigit = false) (allowed : (padded width n).length ≤ most) :
    takeNumeral most (padded width n ++ c :: rest) = some (n, c :: rest) := by
  have ends : ((c :: rest).take (most - (padded width n).length)).takeWhile Char.isDigit = [] := by
    cases most - (padded width n).length <;> simp [other]
  rw [takeNumeral_append (padded_ne_nil width n) (fun c => isDigit_of_mem_padded width n) allowed ends,
    numeralValue_padded]

end Text

/-! ### Dates -/

namespace Date

/-- A mark and a number in two digits are taken off the front of any text. -/
theorem takePart_padded (mark : Char) (solid : isBlank mark = false) {n : Nat} (fits : n < 100)
    (rest : List Char) :
    takePart mark (mark :: (padded 2 n ++ rest)) = some (n, rest) := by
  unfold takePart
  rw [skipBlanks_cons_of_not_blank _ solid]
  simp only [if_true]
  rw [skipBlanks_padded, takeNumeral_padded 2 n (by omega) (by omega)]

/-- **A year is taken off the front of a date**, with its sign if it has one. -/
theorem takeYear_yearText (year : Int) (rest : List Char) :
    takeYear (yearText year ++ '-' :: rest) = some (year, '-' :: rest) := by
  have signed : takeNumeral (padded 4 year.natAbs ++ '-' :: rest).length
      (padded 4 year.natAbs ++ '-' :: rest) = some (year.natAbs, '-' :: rest) :=
    takeNumeral_padded_cons (by decide) (by simp)
  unfold yearText
  by_cases negative : year < 0
  · have back : -(year.natAbs : Int) = year := by omega
    rw [if_pos negative, List.cons_append, takeYear, skipBlanks_cons_of_not_blank _ (by decide)]
    simp only [signed, Option.map_some, back]
  rw [if_neg negative]
  have back : (year.natAbs : Int) = year := by omega
  by_cases long : 9999 < year
  · rw [if_pos long, List.cons_append, takeYear, skipBlanks_cons_of_not_blank _ (by decide)]
    simp only [signed, Option.map_some, back]
  · rw [if_neg long, takeYear, skipBlanks_padded]
    obtain ⟨c, digits, split⟩ := List.exists_cons_of_ne_nil (padded_ne_nil 4 year.natAbs)
    have digit : c.isDigit = true :=
      isDigit_of_mem_padded 4 year.natAbs (by rw [split]; exact List.mem_cons_self)
    have plain := takeNumeral_padded 4 year.natAbs (by omega) (by omega)
      ('-' :: rest)
    -- The year starts with a digit, so neither of the signed readings applies.
    rw [split, List.cons_append] at plain ⊢
    split
    · next same => cases same; exact absurd digit (by decide)
    · next same => cases same; exact absurd digit (by decide)
    · simp only [plain, Option.map_some, back]

theorem daysInMonth_le (year : Int) (month : Nat) : daysInMonth year month ≤ 31 := by
  unfold daysInMonth
  split <;> try split
  all_goals omega

/-- **A date is taken off the front of any text.** -/
theorem take_text_append (date : Date) (rest : List Char) :
    take (date.text ++ rest) = some (date, rest) := by
  obtain ⟨_, _, _, month_le, _, day_le⟩ := date.isDay
  have day_bound := daysInMonth_le date.year date.month
  have shape : date.text ++ rest = yearText date.year ++
      '-' :: (padded 2 date.month ++ '-' :: (padded 2 date.day ++ rest)) := by
    simp [text]
  have month := takePart_padded '-' (by decide) (show date.month < 100 by omega)
    ('-' :: (padded 2 date.day ++ rest))
  have day := takePart_padded '-' (by decide) (show date.day < 100 by omega) rest
  simp only [take, shape, takeYear_yearText, month, day, of?_self, Option.bind_eq_bind,
    Option.bind_some]
  rfl

/-- **Every date is read back as it is written.** -/
theorem read?_text (date : Date) : read? date.text = some date := by
  have whole := take_text_append date []
  rw [List.append_nil] at whole
  unfold read?
  rw [whole]
  rfl

end Date

/-! ### Instants -/

namespace Instant

/-- The fraction of a second is read back in nanoseconds. -/
theorem takeFraction_fractionText {nano : Nat} (part : nano < 1000000000) :
    takeFraction (fractionText nano ++ ['Z']) = some (nano, ['Z']) := by
  have read : ∀ width value, 0 < width → value < 10 ^ width → width ≤ 9 →
      takeFraction ('.' :: padded width value ++ ['Z']) =
        some (value * 10 ^ (9 - width), ['Z']) := by
    intro width value positive fits short
    have filled := length_padded positive fits
    have taken : takeNumeral 9 (padded width value ++ ['Z']) = some (value, ['Z']) :=
      takeNumeral_padded_cons (by decide) (by omega)
    simp only [takeFraction, List.cons_append, taken, Option.map_some, List.length_append, filled]
    simp
  unfold fractionText
  by_cases whole : nano = 0
  · rw [if_pos whole, whole]
    rfl
  rw [if_neg whole]
  by_cases thousandths : nano % 1000000 = 0
  · rw [if_pos thousandths, read 3 _ (by omega) (by omega) (by omega)]
    congr
    omega
  rw [if_neg thousandths]
  by_cases millionths : nano % 1000 = 0
  · rw [if_pos millionths, read 6 _ (by omega) (by omega) (by omega)]
    congr
    omega
  · rw [if_neg millionths, read 9 _ (by omega) (by omega) (by omega)]
    simp

/-- An instant is read from its date, its time and its offset. -/
theorem read?_of_parts {text after tail : List Char} {date : Date} {second nano : Nat}
    {offset : Int} (dated : Date.take text = some (date, 'T' :: after))
    (timed : takeTime after = some ((second, nano), tail))
    (shifted : takeOffset (skipBlanks tail) = some (offset, [])) :
    read? text = ofLocal? date second nano offset := by
  have blanks : skipBlanks [] = [] := rfl
  simp [read?, dated, timed, shifted, blanks]

/-- **Every instant is read back as it is written**, leap seconds too. -/
theorem read?_text (instant : Instant) : read? instant.text = some instant := by
  obtain ⟨date, second, nano, valid⟩ := instant
  have in_day : second < 86400 := valid.1
  have leaps : nano < 1000000000 ∨ (second % 60 = 59 ∧ nano < 2000000000) := valid.2
  have leap_le : nano / 1000000000 ≤ 1 := by omega
  have shape : text ⟨date, second, nano, valid⟩ = date.text ++
      'T' :: (padded 2 (second / 3600) ++ ':' :: (padded 2 (second / 60 % 60) ++
        ':' :: (padded 2 (second % 60 + nano / 1000000000) ++
          (fractionText (nano % 1000000000) ++ ['Z'])))) := by
    simp [text]
  have hour := takeNumeral_padded 2 (second / 3600) (by omega) (by omega)
  have minute := Date.takePart_padded ':' (by decide)
    (show second / 60 % 60 < 100 by omega)
  have sixtieth := Date.takePart_padded ':' (by decide)
    (show second % 60 + nano / 1000000000 < 100 by omega)
  have fraction := takeFraction_fractionText (show nano % 1000000000 < 1000000000 by omega)
  have bounds : second / 3600 < 24 ∧ second / 60 % 60 < 60 ∧
      second % 60 + nano / 1000000000 ≤ 60 := by omega
  -- A leap second is written as the sixtieth and counted back to the fifty-ninth.
  have leap : (second % 60 + nano / 1000000000) / 60 = nano / 1000000000 := by omega
  have clock : second / 3600 * 3600 + second / 60 % 60 * 60 +
      (second % 60 + nano / 1000000000 - nano / 1000000000) = second := by omega
  have parts : nano % 1000000000 + nano / 1000000000 * 1000000000 = nano := by omega
  have time : takeTime (padded 2 (second / 3600) ++ ':' :: (padded 2 (second / 60 % 60) ++
      ':' :: (padded 2 (second % 60 + nano / 1000000000) ++
        (fractionText (nano % 1000000000) ++ ['Z'])))) = some ((second, nano), ['Z']) := by
    simp only [takeTime, skipBlanks_padded, hour, minute, sixtieth, fraction, Option.bind_eq_bind,
      Option.bind_some, if_pos bounds, leap, clock, parts]
  have offset : takeOffset (skipBlanks ['Z']) = some (0, []) := by decide
  have here : ofLocal? date second nano 0 = some ⟨date, second, nano, valid⟩ := by
    have forward : ¬ ((second : Int) - 0 < 0) := by omega
    have within : (second : Int) - 0 < 86400 := by omega
    rw [ofLocal?, if_neg forward, if_pos within, Int.sub_zero, Int.toNat_natCast]
    exact of?_self ⟨date, second, nano, valid⟩
  rw [shape, read?_of_parts (Date.take_text_append date _) time offset, here]

end Instant

end Syllabus
