/-
**JSON values.**

* `Json` — a value, an object's members in order;
* `Json.text` — its text, without blanks.
-/

import Syllabus.Binary64.Decimal
import Syllabus.Text.Hex

namespace Syllabus

/-- A JSON value. Whole numbers are kept apart from numbers with a fraction or an exponent. -/
inductive Json where
  | null
  | bool (value : Bool)
  | integer (value : Int)
  | decimal (value : Binary64)
  | string (value : String)
  | array (items : List Json)
  | object (members : List (String × Json))

namespace Json

open Text

/-- A character inside quotes: quotes, backslashes and control characters are escaped. -/
def escaped (c : Char) : List Char :=
  if c = '"' then ['\\', '"']
  else if c = '\\' then ['\\', '\\']
  else if c.toNat < 0x20 then
    ['\\', 'u', '0', '0', hexDigit (c.toNat / 16), hexDigit (c.toNat % 16)]
  else [c]

/-- A text in quotes. -/
def quoted (text : List Char) : List Char :=
  '"' :: (text.flatMap escaped ++ ['"'])

mutual

/-- The text of a value. JSON has no text for infinities and NaNs, so null stands for them. -/
def text : Json → List Char
  | .null => ['n', 'u', 'l', 'l']
  | .bool true => ['t', 'r', 'u', 'e']
  | .bool false => ['f', 'a', 'l', 's', 'e']
  | .integer value => integerNumeral value
  | .decimal value => if value.isFinite then value.concise else ['n', 'u', 'l', 'l']
  | .string value => quoted value.toList
  | .array items => '[' :: itemsText items
  | .object members => '{' :: membersText members

/-- The items of an array and its closing bracket. -/
def itemsText : List Json → List Char
  | [] => [']']
  | [item] => item.text ++ [']']
  | item :: items => item.text ++ ',' :: itemsText items

/-- The members of an object and its closing brace. -/
def membersText : List (String × Json) → List Char
  | [] => ['}']
  | [(key, value)] => quoted key.toList ++ ':' :: (value.text ++ ['}'])
  | (key, value) :: members =>
    quoted key.toList ++ ':' :: (value.text ++ ',' :: membersText members)

end

end Json

end Syllabus
