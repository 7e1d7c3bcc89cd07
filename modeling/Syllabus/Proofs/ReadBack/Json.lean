/-
**Texts of JSON values are read back.**

* `Draft.takeString_quoted` — every string, whatever has to be escaped in it;
* `Draft.takeNumber_numeral` — every whole number of 64 bits, with or without a sign;
* `Json.IsExact` — a value that its text tells exactly: its numbers are whole and of 64 bits;
* **`Draft.readValue_text`** — such a value is read off the front of any text that does not go on
  with more of a number;
* **`Draft.ofText_text`** — its text as a whole is read as its draft.
-/

import Syllabus.Json.Reader
import Syllabus.Proofs.ReadBack.Calendar

namespace Syllabus

open Text

/-! ### Strings -/

namespace Draft

/-- The code unit that a character is written as. -/
def unit (c : Char) : Char ⊕ Nat :=
  if c.toNat < 0x20 then .inr c.toNat else .inl c

/-- Four hexadecimal digits of a number below two hundred and fifty-six stand for it. -/
theorem hexValue4?_hexDigit {n : Nat} (small : n < 256) :
    hexValue4? '0' '0' (hexDigit (n / 16)) (hexDigit (n % 16)) = some n := by
  have high := hexValue?_hexDigit (show n / 16 < 16 by omega)
  have low := hexValue?_hexDigit (show n % 16 < 16 by omega)
  have zero : hexValue? '0' = some 0 := by decide
  have parts : ((0 * 16 + 0) * 16 + n / 16) * 16 + n % 16 = n := by omega
  simp only [hexValue4?, zero, high, low, Option.bind_eq_bind, Option.bind_some, parts]
  rfl

/-- An escaped character is taken off the front of a text as its code unit. -/
theorem takeUnits_escaped (c : Char) (rest : List Char) :
    takeUnits (Json.escaped c ++ rest) =
      (takeUnits rest).map fun (units, rest) => (unit c :: units, rest) := by
  unfold Json.escaped
  by_cases quote : c = '"'
  · subst quote
    cases taken : takeUnits rest <;> simp [takeUnits, escape?, unit, taken]
  rw [if_neg quote]
  by_cases backslash : c = '\\'
  · subst backslash
    cases taken : takeUnits rest <;> simp [takeUnits, escape?, unit, taken]
  rw [if_neg backslash]
  by_cases control : c.toNat < 0x20
  · have code := hexValue4?_hexDigit (show c.toNat < 256 by omega)
    cases taken : takeUnits rest <;> simp [takeUnits, unit, control, code, taken]
  · cases taken : takeUnits rest <;> simp [takeUnits, backslash, unit, control, taken]

/-- An escaped text is taken off up to the closing quote. -/
theorem takeUnits_flatMap_escaped (text rest : List Char) :
    takeUnits (text.flatMap Json.escaped ++ '"' :: rest) = some (text.map unit, rest) := by
  induction text with
  | nil => simp [takeUnits]
  | cons c text ih => simp [takeUnits_escaped, ih]

/-- Code units of characters stand for the characters. -/
theorem ofUnits?_map_unit (text : List Char) : ofUnits? (text.map unit) = some text := by
  induction text with
  | nil => rfl
  | cons c text ih =>
    by_cases control : c.toNat < 0x20
    · have no_surrogate : c.toNat < 0xD800 := by omega
      rw [List.map_cons, unit, if_pos control, ofUnits?.eq_def]
      simp [no_surrogate, ih, Char.ofNat_toNat]
    · simp [unit, control, ofUnits?, ih]

/-- **A string in quotes is read back.** -/
theorem takeString_quoted (text rest : List Char) :
    takeString (text.flatMap Json.escaped ++ '"' :: rest) =
      some (some (String.ofList text), rest) := by
  simp [takeString, takeUnits_flatMap_escaped, ofUnits?_map_unit]

end Draft

/-! ### Numbers -/

namespace Text

theorem numeral_ne_nil (n : Nat) : numeral n ≠ [] := by
  simp [numeral, Nat.toDigits_ne_nil]

theorem isDigit_of_mem_numeral {n : Nat} {c : Char} (member : c ∈ numeral n) :
    c.isDigit = true :=
  Nat.isDigit_of_mem_toDigits (by omega) (by omega) member

/-- The numeral of a positive number starts with no zero. The induction takes the last digit off. -/
theorem head?_numeral_ne_zero {n : Nat} (positive : 0 < n) : (numeral n).head? ≠ some '0' := by
  induction n using Nat.strongRecOn with
  | ind n ih =>
    by_cases small : n < 10
    · have digits : ∀ n < 10, 0 < n → (Nat.toDigits 10 n).head? ≠ some '0' := by decide
      exact digits n small positive
    · have shorter := ih (n / 10) (by omega) (by omega)
      have front : (numeral (n / 10)).head? = (numeral n).head? := by
        obtain ⟨c, digits, split⟩ := List.exists_cons_of_ne_nil (numeral_ne_nil (n / 10))
        have longer : numeral n = numeral (n / 10) ++ [(n % 10).digitChar] :=
          Nat.toDigits_of_base_le (by omega) (by omega)
        rw [longer, split]
        rfl
      rwa [← front]

end Text

namespace Draft

theorem le_ofDigitChars (digits : List Char) (kept : Nat) :
    kept ≤ Nat.ofDigitChars 10 digits kept := by
  induction digits generalizing kept with
  | nil => exact Nat.le_of_eq Nat.ofDigitChars_nil.symm
  | cons c digits ih =>
    rw [Nat.ofDigitChars_cons]
    exact Nat.le_trans (by omega) (ih _)

/-- All digits are kept of a number that fits a word. -/
theorem keepDigits_of_fits {digits : List Char} {kept : Nat}
    (fits : Nat.ofDigitChars 10 digits kept < UInt64.size) :
    keepDigits kept digits = (Nat.ofDigitChars 10 digits kept, []) := by
  induction digits generalizing kept with
  | nil => simp [keepDigits]
  | cons c digits ih =>
    rw [Nat.ofDigitChars_cons] at fits ⊢
    have here := Nat.lt_of_le_of_lt (le_ofDigitChars digits _) fits
    rw [keepDigits, if_pos here, ih fits]

/-- A text that does not go on with more of a number. -/
def Delimited (rest : List Char) : Prop :=
  ∀ c ∈ rest.head?, c.isDigit = false ∧ c ≠ '.' ∧ c ≠ 'e' ∧ c ≠ 'E'

/-- **A numeral is taken off the front of a text.** -/
theorem takeNumber_numeral (negative : Bool) {n : Nat} (fits : n < UInt64.size)
    {rest : List Char} (ends : Delimited rest) :
    takeNumber negative (numeral n ++ rest) = some (whole negative n, rest) := by
  have no_digit : rest.takeWhile Char.isDigit = [] ∧ rest.dropWhile Char.isDigit = rest := by
    cases rest with
    | nil => exact ⟨rfl, rfl⟩
    | cons c rest => simp [(ends c rfl).1]
  have front : (numeral n ++ rest).takeWhile Char.isDigit = numeral n := by
    rw [List.takeWhile_append_of_pos fun c => isDigit_of_mem_numeral, no_digit.1, List.append_nil]
  have back : (numeral n ++ rest).dropWhile Char.isDigit = rest := by
    rw [List.dropWhile_append_of_pos fun c => isDigit_of_mem_numeral, no_digit.2]
  have value : Nat.ofDigitChars 10 (numeral n) 0 = n := Nat.ofDigitChars_ten_toDigits
  have kept : keepDigits 0 (numeral n) = (n, []) := by
    rw [keepDigits_of_fits (by rwa [value]), value]
  have plain : ¬ (numeral n = [] ∨ ((numeral n).head? = some '0' ∧ (numeral n).length ≠ 1)) := by
    rintro (empty | ⟨zero, long⟩)
    · exact numeral_ne_nil n empty
    · rcases Nat.eq_zero_or_pos n with rfl | positive
      · exact long rfl
      · exact head?_numeral_ne_zero positive zero
  have no_power : takeExponent rest = some (none, rest) := by
    cases rest with
    | nil => rfl
    | cons c rest => simp [takeExponent, (ends c rfl).2]
  simp only [takeNumber, front, back, kept, if_neg plain]
  split
  · next same => exact absurd rfl (ends '.' (by simp)).2.1
  · simp [no_power]

end Draft

/-! ### Values -/

namespace Json

mutual

/-- A value that its text tells exactly: its numbers are whole and of 64 bits. -/
def IsExact : Json → Prop
  | .integer value => Int64.minValue.toInt ≤ value ∧ value < UInt64.size
  | .decimal _ => False
  | .array items => AreExact items
  | .object members => MembersExact members
  | _ => True

/-- All items are exact. -/
def AreExact : List Json → Prop
  | [] => True
  | item :: items => item.IsExact ∧ AreExact items

/-- The values of all members are exact. -/
def MembersExact : List (String × Json) → Prop
  | [] => True
  | (_, value) :: members => value.IsExact ∧ MembersExact members

end

end Json

namespace Draft

theorem delimited_cons {c : Char} (delimiter : c ∈ [',', ']', '}']) (rest : List Char) :
    Delimited (c :: rest) := by
  rintro _ ⟨⟩
  simp only [List.mem_cons, List.not_mem_nil, or_false] at delimiter
  rcases delimiter with rfl | rfl | rfl <;> decide

/-- A text that starts with no white space is left as it is. -/
theorem skipSpace_cons {c : Char} (solid : isSpace c = false) (rest : List Char) :
    skipSpace (c :: rest) = c :: rest := by
  simp [skipSpace, solid]

/-- A digit is no other character. -/
theorem ne_of_isDigit {c other : Char} (digit : c.isDigit = true) (plain : other.isDigit = false) :
    c ≠ other := by
  rintro rfl
  simp [plain] at digit

theorem isSpace_of_isDigit {c : Char} (digit : c.isDigit = true) : isSpace c = false := by
  simp [isSpace, ne_of_isDigit digit]

/-- A text that starts with a digit is read as a number. -/
theorem readValue_of_isDigit (depth : Nat) {c : Char} (digit : c.isDigit = true)
    (rest : List Char) : readValue (depth + 1) (c :: rest) = readValue.number false (c :: rest) := by
  have head : ∀ other : Char, other.isDigit = false → c ≠ other := fun _ => ne_of_isDigit digit
  rw [readValue, skipSpace_cons (isSpace_of_isDigit digit)]
  split <;> simp_all

/-- **A whole number is read back.** -/
theorem readValue_integerNumeral (depth : Nat) {value : Int} (exact : (Json.integer value).IsExact)
    {rest : List Char} (ends : Delimited rest) :
    readValue (depth + 1) (integerNumeral value ++ rest) = (.integer value, some rest) := by
  obtain ⟨least, most⟩ := exact
  have least : -9223372036854775808 ≤ value := least
  cases value with
  | ofNat n =>
    have taken := takeNumber_numeral false (Int.ofNat_lt.mp most) ends
    obtain ⟨c, digits, split⟩ := List.exists_cons_of_ne_nil (numeral_ne_nil n)
    have digit : c.isDigit = true := isDigit_of_mem_numeral (split ▸ List.mem_cons_self)
    rw [split, List.cons_append] at taken
    rw [integerNumeral, split, List.cons_append, readValue_of_isDigit depth digit,
      readValue.number, taken]
    rfl
  | negSucc n =>
    have taken := takeNumber_numeral true (show n + 1 < 18446744073709551616 by omega) ends
    have within : 0 < n + 1 ∧ Int64.minValue.toInt ≤ -((n + 1 : Nat) : Int) :=
      ⟨by omega, show -9223372036854775808 ≤ -((n + 1 : Nat) : Int) by omega⟩
    have kept : whole true (n + 1) = .integer (.negSucc n) := by
      simp only [whole, not_true_eq_false, if_false, if_pos within]
      rfl
    simp [integerNumeral, readValue, skipSpace, isSpace, readValue.number, taken, kept]

/-- What the text of an exact value starts with: no white space, and no bracket that closes. -/
theorem head_text : (value : Json) → value.IsExact →
    ∃ c rest, value.text = c :: rest ∧ isSpace c = false ∧ c ≠ ']'
  | .null, _ | .bool true, _ | .bool false, _ | .string _, _ | .array _, _ | .object _, _ =>
    ⟨_, _, rfl, by decide, by decide⟩
  | .integer (.negSucc _), _ => ⟨_, _, rfl, by decide, by decide⟩
  | .decimal _, exact => exact.elim
  | .integer (.ofNat n), _ => by
    obtain ⟨c, digits, split⟩ := List.exists_cons_of_ne_nil (numeral_ne_nil n)
    have digit : c.isDigit = true := isDigit_of_mem_numeral (split ▸ List.mem_cons_self)
    exact ⟨c, digits, split, isSpace_of_isDigit digit, ne_of_isDigit digit (by decide)⟩

/-- What the items of an array start with, if there are any. -/
theorem head_itemsText {item : Json} (exact : item.IsExact) (items : List Json) :
    ∃ c rest, Json.itemsText (item :: items) = c :: rest ∧ isSpace c = false ∧ c ≠ ']' := by
  obtain ⟨c, rest, split, solid, opens⟩ := head_text item exact
  cases items with
  | nil => exact ⟨c, rest ++ [']'], by simp [Json.itemsText, split], solid, opens⟩
  | cons next items =>
    exact ⟨c, rest ++ ',' :: Json.itemsText (next :: items), by simp [Json.itemsText, split], solid,
      opens⟩

/-- The members of an object start with the quote of a key. -/
theorem head_membersText : (member : String × Json) → (members : List (String × Json)) →
    ∃ rest, Json.membersText (member :: members) = '"' :: rest
  | (_, _), [] => ⟨_, rfl⟩
  | (_, _), _ :: _ => ⟨_, rfl⟩

mutual

/-- **The text of an exact value is read back**, wherever it stands. -/
theorem readValue_text : (value : Json) → value.IsExact →
    ∀ (depth : Nat) (rest : List Char), 2 * value.text.length ≤ depth → Delimited rest →
      readValue depth (value.text ++ rest) = (value.draft, some rest)
  | value, exact, 0, rest, deep, ends => by
    obtain ⟨c, after, split, -⟩ := head_text value exact
    simp [split] at deep
  | .decimal _, exact, _, _, _, _ => exact.elim
  | .null, _, depth + 1, rest, _, _ => rfl
  | .bool true, _, depth + 1, rest, _, _ => rfl
  | .bool false, _, depth + 1, rest, _, _ => rfl
  | .integer value, exact, depth + 1, rest, _, ends => readValue_integerNumeral depth exact ends
  | .string value, _, depth + 1, rest, _, _ => by
    have shape : (Json.string value).text ++ rest =
        '"' :: (value.toList.flatMap Json.escaped ++ '"' :: rest) := by
      simp [Json.text, Json.quoted]
    rw [shape]
    simp [readValue, skipSpace, isSpace, takeString_quoted, Json.draft]
  | .array [], _, depth + 1, rest, _, _ => rfl
  | .array (item :: items), exact, depth + 1, rest, deep, _ => by
    have read := readItems_text item items exact depth rest (by
      simp only [Json.text, List.length_cons] at deep
      omega)
    obtain ⟨c, after, split, solid, opens⟩ := head_itemsText exact.1 items
    rw [split, List.cons_append] at read
    rw [Json.text, split, List.cons_append, List.cons_append, readValue,
      skipSpace_cons (by decide) (c :: (after ++ rest))]
    simp [skipSpace_cons solid, opens, read, Json.draft]
  | .object [], _, depth + 1, rest, _, _ => rfl
  | .object (member :: members), exact, depth + 1, rest, deep, _ => by
    have read := readMembers_text member members exact depth rest (by
      simp only [Json.text, List.length_cons] at deep
      omega)
    obtain ⟨after, split⟩ := head_membersText member members
    rw [split, List.cons_append] at read
    rw [Json.text, split]
    simp [readValue, skipSpace, isSpace, read, Json.draft]

/-- The items of an array are read back up to the closing bracket. -/
theorem readItems_text : (item : Json) → (items : List Json) → Json.AreExact (item :: items) →
    ∀ (depth : Nat) (rest : List Char), 2 * (Json.itemsText (item :: items)).length ≤ depth →
      readItems depth (Json.itemsText (item :: items) ++ rest) =
        (Json.itemsDraft (item :: items), some rest)
  | item, items, exact, 0, rest, deep => by
    obtain ⟨c, after, split, -⟩ := head_itemsText exact.1 items
    simp [split] at deep
  | item, [], exact, depth + 1, rest, deep => by
    have read := readValue_text item exact.1 depth (']' :: rest)
      (by simp only [Json.itemsText, List.length_append, List.length_singleton] at deep; omega)
      (delimited_cons (by decide) rest)
    have shape : Json.itemsText [item] ++ rest = item.text ++ ']' :: rest := by
      simp [Json.itemsText]
    rw [shape, readItems, read]
    simp [skipSpace_cons, isSpace, Json.itemsDraft]
  | item, next :: items, exact, depth + 1, rest, deep => by
    have room : 2 * item.text.length ≤ depth ∧
        2 * (Json.itemsText (next :: items)).length ≤ depth := by
      simp only [Json.itemsText, List.length_append, List.length_cons] at deep
      omega
    have read := readValue_text item exact.1 depth (',' :: (Json.itemsText (next :: items) ++ rest))
      room.1 (delimited_cons (by decide) _)
    have others := readItems_text next items exact.2 depth rest room.2
    have shape : Json.itemsText (item :: next :: items) ++ rest =
        item.text ++ ',' :: (Json.itemsText (next :: items) ++ rest) := by
      simp [Json.itemsText]
    rw [shape, readItems, read]
    simp [skipSpace_cons, isSpace, others, Json.itemsDraft]

/-- The members of an object are read back up to the closing brace. -/
theorem readMembers_text : (member : String × Json) → (members : List (String × Json)) →
    Json.MembersExact (member :: members) →
    ∀ (depth : Nat) (rest : List Char), 2 * (Json.membersText (member :: members)).length ≤ depth →
      readMembers depth (Json.membersText (member :: members) ++ rest) =
        (Json.membersDraft (member :: members), some rest)
  | member, members, exact, 0, rest, deep => by
    obtain ⟨after, split⟩ := head_membersText member members
    simp [split] at deep
  | (key, value), [], exact, depth + 1, rest, deep => by
    have room : 2 * value.text.length ≤ depth := by
      simp only [Json.membersText, List.length_append, List.length_cons] at deep
      omega
    have read := readValue_text value exact.1 depth ('}' :: rest) room
      (delimited_cons (by decide) rest)
    have shape : Json.membersText [(key, value)] ++ rest =
        '"' :: (key.toList.flatMap Json.escaped ++ '"' :: ':' :: (value.text ++ '}' :: rest)) := by
      simp [Json.membersText, Json.quoted]
    rw [shape, readMembers, skipSpace_cons (by decide)]
    simp [takeString_quoted, skipSpace_cons, isSpace, read, Json.membersDraft]
  | (key, value), next :: members, exact, depth + 1, rest, deep => by
    have room : 2 * value.text.length ≤ depth ∧
        2 * (Json.membersText (next :: members)).length ≤ depth := by
      simp only [Json.membersText, List.length_append, List.length_cons] at deep
      omega
    have read := readValue_text value exact.1 depth
      (',' :: (Json.membersText (next :: members) ++ rest)) room.1 (delimited_cons (by decide) _)
    have others := readMembers_text next members exact.2 depth rest room.2
    have shape : Json.membersText ((key, value) :: next :: members) ++ rest =
        '"' :: (key.toList.flatMap Json.escaped ++
          '"' :: ':' :: (value.text ++ ',' :: (Json.membersText (next :: members) ++ rest))) := by
      simp [Json.membersText, Json.quoted]
    rw [shape, readMembers, skipSpace_cons (by decide)]
    simp [takeString_quoted, skipSpace_cons, isSpace, read, others, Json.membersDraft]

end

/-- **The text of an exact value is read as a whole.** -/
theorem ofText_text {value : Json} (exact : value.IsExact) :
    ofText (String.ofList value.text) = value.draft := by
  have read := readValue_text value exact (2 * value.text.length + 2) [] (by omega) (by simp [Delimited])
  rw [List.append_nil] at read
  simp [ofText, Draft.read, read, skipSpace]

end Draft

end Syllabus
