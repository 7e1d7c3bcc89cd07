/-
**Reading JSON texts.**

* `Draft.read` — the value at the front of a text as far as it can be read, and the text after it;
* `Draft.ofText` — a whole text as one value, with only white space around it.
-/

import Syllabus.Json.Number
import Syllabus.Text.Hex

namespace Syllabus.Draft

open Text

/-- The four characters that may stand around the parts of a JSON text. -/
def isSpace (c : Char) : Bool :=
  c == ' ' || c == '\n' || c == '\t' || c == '\r'

/-- A text from its first character that is not white space. -/
def skipSpace (text : List Char) : List Char :=
  text.dropWhile isSpace

/-! ### Strings -/

/-- The value of four hexadecimal digits. -/
def hexValue4? (a b c d : Char) : Option Nat := do
  let a ← hexValue? a
  let b ← hexValue? b
  let c ← hexValue? c
  let d ← hexValue? d
  return ((a * 16 + b) * 16 + c) * 16 + d

/-- The character that a backslash and this character stand for. -/
def escape? (c : Char) : Option Char :=
  match c with
  | '"' => some '"'
  | '\\' => some '\\'
  | '/' => some '/'
  | 'b' => some '\x08'
  | 'f' => some '\x0c'
  | 'n' => some '\n'
  | 'r' => some '\r'
  | 't' => some '\t'
  | _ => none

/-- The code units of a string up to its closing quote, and the text after the quote. A character
written as such is one unit, an escape of four digits another. -/
def takeUnits : List Char → Option (List (Char ⊕ Nat) × List Char)
  | '"' :: rest => some ([], rest)
  | '\\' :: 'u' :: a :: b :: c :: d :: rest => do
    let unit ← hexValue4? a b c d
    let (units, rest) ← takeUnits rest
    return (.inr unit :: units, rest)
  | '\\' :: c :: rest => do
    let c ← escape? c
    let (units, rest) ← takeUnits rest
    return (.inl c :: units, rest)
  | c :: rest =>
    if c.toNat < 0x20 then none
    else do
      let (units, rest) ← takeUnits rest
      return (.inl c :: units, rest)
  | [] => none

/-- The characters of code units: two surrogates in order make one character, and a surrogate on
its own makes none. -/
def ofUnits? : List (Char ⊕ Nat) → Option (List Char)
  | [] => some []
  | .inl c :: rest => (ofUnits? rest).map (c :: ·)
  | .inr unit :: rest =>
    if unit < 0xD800 ∨ 0xDFFF < unit then (ofUnits? rest).map (Char.ofNat unit :: ·)
    else match rest with
      | .inr low :: rest =>
        if unit ≤ 0xDBFF ∧ 0xDC00 ≤ low ∧ low ≤ 0xDFFF then
          (ofUnits? rest).map
            (Char.ofNat (0x10000 + (unit - 0xD800) * 0x400 + (low - 0xDC00)) :: ·)
        else none
      | _ => none

/-- The text of a string up to its closing quote, and the text after the quote. There is none where
half of a surrogate pair stands in the string. -/
def takeString (text : List Char) : Option (Option String × List Char) :=
  (takeUnits text).map fun (units, rest) => ((ofUnits? units).map String.ofList, rest)

/-! ### Values -/

mutual

/-- The value at the front of a text and the text after it; no text where the value is broken. The
first argument bounds the nesting. -/
def readValue : Nat → List Char → Draft × Option (List Char)
  | 0, _ => (.broken, none)
  | depth + 1, text =>
    match skipSpace text with
    | 'n' :: 'u' :: 'l' :: 'l' :: rest => (.null, some rest)
    | 't' :: 'r' :: 'u' :: 'e' :: rest => (.bool true, some rest)
    | 'f' :: 'a' :: 'l' :: 's' :: 'e' :: rest => (.bool false, some rest)
    | '"' :: rest =>
      match takeString rest with
      | some (some value, rest) => (.string value, some rest)
      | some (none, rest) => (.unpaired, some rest)
      | none => (.broken, none)
    | '[' :: rest =>
      match skipSpace rest with
      | ']' :: rest => (.array [] .closed, some rest)
      | rest =>
        let (items, rest) := readItems depth rest
        (.array items (if rest.isSome then .closed else .broken), rest)
    | '{' :: rest =>
      match skipSpace rest with
      | '}' :: rest => (.object [] .closed, some rest)
      | rest =>
        let (members, rest) := readMembers depth rest
        (.object members (if rest.isSome then .closed else .broken), rest)
    | '-' :: rest => number true rest
    | rest => number false rest
where
  /-- The number at the front of a text, or a break. -/
  number (negative : Bool) (text : List Char) : Draft × Option (List Char) :=
    match takeNumber negative text with
    | some (value, rest) => (value, some rest)
    | none => (.broken, none)

/-- The items at the front of a text, one at least, up to a closing bracket. -/
def readItems : Nat → List Char → List Draft × Option (List Char)
  | 0, _ => ([], none)
  | depth + 1, text =>
    match readValue depth text with
    | (item, none) => ([item], none)
    | (item, some rest) =>
      match skipSpace rest with
      | ']' :: rest => ([item], some rest)
      | ',' :: rest =>
        let (items, rest) := readItems depth rest
        (item :: items, rest)
      | _ => ([item], none)

/-- The members at the front of a text, one at least, up to a closing brace. -/
def readMembers : Nat → List Char → List (Option String × Draft) × Option (List Char)
  | 0, _ => ([], none)
  | depth + 1, text =>
    match skipSpace text with
    | '"' :: rest =>
      match takeString rest with
      | some (key, rest) =>
        match skipSpace rest with
        | ':' :: rest =>
          match readValue depth rest with
          | (value, none) => ([(key, value)], none)
          | (value, some rest) =>
            match skipSpace rest with
            | '}' :: rest => ([(key, value)], some rest)
            | ',' :: rest =>
              let (members, rest) := readMembers depth rest
              ((key, value) :: members, rest)
            | _ => ([(key, value)], none)
        | _ => ([(key, .broken)], none)
      | none => ([], none)
    | _ => ([], none)

end

/-- The value at the front of a text as far as it can be read, and the text after it; no text where
the value is broken. Each level of nesting and each item takes a character, so twice the length
bounds the descent. -/
def read (text : String) : Draft × Option (List Char) :=
  readValue (2 * text.length + 2) text.toList

/-- A whole text as one value: where anything but white space follows it, a broken one. -/
def ofText (text : String) : Draft :=
  match read text with
  | (value, some rest) => if skipSpace rest = [] then value else .broken
  | (value, none) => value

end Syllabus.Draft
