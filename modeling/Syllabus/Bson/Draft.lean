/-
**From JSON to stored values and back to a decoder.**

* `Json.stored` — a value as it is stored, whole numbers in 64 bits;
* `Foreign.draft`, `Bson.draft` — a stored value as a decoder is handed it. Plain bytes are bytes. Generated
  keys, stored times and the other kinds of values that no record is written with are objects of members
  that no record type knows, and lists and documents end leniently.
-/

import Syllabus.Bson.Text
import Syllabus.Json.Draft

namespace Syllabus

namespace Json

mutual

/-- A value as it is stored. -/
def stored : Json → Bson
  | .null => .null
  | .bool value => .bool value
  | .integer value => .int64 (Int64.ofInt value)
  | .decimal value => .double value
  | .string value => .string value
  | .array items => .array (itemsStored items)
  | .object members => .document (membersStored members)

/-- All items as they are stored. -/
def itemsStored : List Json → List Bson
  | [] => []
  | item :: items => item.stored :: itemsStored items

/-- All members as they are stored. -/
def membersStored : List (String × Json) → Document
  | [] => []
  | (key, value) :: members => (key, value.stored) :: membersStored members

end

end Json

/-- A value of a kind that no record is written with, as a decoder is handed it. -/
def Foreign.draft (value : Foreign) : Draft :=
  match value.kind with
  | .binary 0 => .bytes value.bytes
  -- Each kind has a member of its own, but a record knows none of them and passes over its value.
  | _ => .object [(some "$foreign", .string value.text)] .lenient

namespace Bson

mutual

/-- A stored value as a decoder is handed it. -/
def draft : Bson → Draft
  | .null => .null
  | .bool value => .bool value
  | .int32 value => .integer value.toInt
  | .int64 value => .integer value.toInt
  | .double value => .decimal value
  | .string value => .string value
  | .objectId value => .object [(some "$oid", .string value.hex)] .lenient
  | .dateTime millis => .object [(some "$date", .integer millis.toInt)] .lenient
  | .foreign value => value.draft
  | .scopedScript code scope =>
    .object [(some "$code", .string code), (some "$scope", .object (fieldsDraft scope) .lenient)] .lenient
  | .array items => .array (itemsDraft items) .lenient
  | .document fields => .object (fieldsDraft fields) .lenient

/-- All items as a decoder is handed them. -/
def itemsDraft : List Bson → List Draft
  | [] => []
  | item :: items => item.draft :: itemsDraft items

/-- All fields as a decoder is handed them. -/
def fieldsDraft : List (String × Bson) → List (Option String × Draft)
  | [] => []
  | (key, value) :: fields => (some key, value.draft) :: fieldsDraft fields

end

end Bson

end Syllabus
