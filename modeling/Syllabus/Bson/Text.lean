/-
**Stored values as text.**

* `ObjectId.hex` — the 24 digits of a generated key;
* `Bson.text` — a value inside another, strings in quotes;
* `Bson.keyText` — a key as a report names it, strings as they are.
-/

import Syllabus.Binary64.Decimal
import Syllabus.Bson.Basic
import Syllabus.Calendar.Clock
import Syllabus.Text.Hex

namespace Syllabus

open Text

/-- The 24 digits of a generated key. -/
def ObjectId.hex (id : ObjectId) : String :=
  String.ofList ((List.range 24).map fun place =>
    hexDigit (id.number / Nat.pow 16 (23 - place) % 16))

/-- The generated key with these 24 digits. -/
def ObjectId.ofHex? (text : String) : Option ObjectId :=
  match text.toList.mapM hexValue? with
  | some digits =>
    if digits.length = 24 then some ⟨digits.foldl (fun value digit => 16 * value + digit) 0⟩
    else none
  | none => none

namespace Bson

mutual

/-- The text of a value: strings in quotes, keys of documents too. -/
def text : Bson → List Char
  | .null => "null".toList
  | .bool true => "true".toList
  | .bool false => "false".toList
  | .int32 value => integerNumeral value.toInt
  | .int64 value => integerNumeral value.toInt
  | .double value => value.positional false
  | .string value => '"' :: (value.toList ++ ['"'])
  | .objectId value => "ObjectId(\"".toList ++ value.hex.toList ++ "\")".toList
  | .dateTime millis => "DateTime(\"".toList ++ clockText millis.toInt ++ "\")".toList
  | .foreign value => value.text.toList
  | .scopedScript code _ => code.toList
  | .array items => '[' :: itemsText items
  | .document [] => ['{', '}']
  | .document fields => '{' :: ' ' :: fieldsText fields

/-- The items of an array and its closing bracket. -/
def itemsText : List Bson → List Char
  | [] => [']']
  | [item] => item.text ++ [']']
  | item :: items => item.text ++ ',' :: ' ' :: itemsText items

/-- The fields of a document and its closing brace. -/
def fieldsText : List (String × Bson) → List Char
  | [] => [' ', '}']
  | [(key, value)] => '"' :: (key.toList ++ '"' :: ':' :: ' ' :: (value.text ++ [' ', '}']))
  | (key, value) :: fields =>
    '"' :: (key.toList ++ '"' :: ':' :: ' ' :: (value.text ++ ',' :: ' ' :: fieldsText fields))

end

/-- A key as a report names it: a string as it is, any other value as its text. -/
def keyText : Bson → String
  | .string value => value
  | value => String.ofList value.text

end Bson

end Syllabus
