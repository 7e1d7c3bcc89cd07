/-
**Decoding and encoding single values.**

* `Fault` — why a value could not be decoded: the text goes wrong, or the value is of another kind;
* `Codec` — how values of a type are written as JSON and decoded from a draft;
* `Codec.ofText`, `Codec.ofTextFront`, `Codec.ofStored` — decoding a whole text, the value at the
  front of a text, and a stored value;
* codecs of truth values, numbers within bounds, texts, lists, optional values, dates and instants.
-/

import Syllabus.Bson.Draft
import Syllabus.Calendar.Instant
import Syllabus.Json.Reader

namespace Syllabus

/-- Why a value could not be decoded. -/
inductive Fault where
  /-- The text goes wrong, or a literal stands for no value. -/
  | malformed
  /-- The value is of another kind than the one asked for. -/
  | mismatch
  deriving DecidableEq

/-- The fault of asking a draft for a value of a kind it does not have. -/
def Draft.fault : Draft → Fault
  | .broken | .unpaired | .outOfRange => .malformed
  | _ => .mismatch

/-- How values of a type are written as JSON and decoded from a draft. -/
class Codec (α : Type) where
  json : α → Json
  decode : Draft → Except Fault α

namespace Codec

variable {α : Type} [Codec α]

/-- The text of a value. -/
def text (value : α) : String :=
  String.ofList (json value).text

/-- The value that a whole text stands for. -/
def ofText (text : String) : Except Fault α :=
  decode (Draft.ofText text)

/-- The value at the front of a text, whatever follows it. -/
def ofTextFront (text : String) : Except Fault α :=
  decode (Draft.read text).1

/-- The value that a JSON value stands for. -/
def ofJson (value : Json) : Except Fault α :=
  decode value.draft

/-- A value as it is stored. -/
def stored (value : α) : Bson :=
  (json value).stored

/-- The value that a stored value stands for. -/
def ofStored (value : Bson) : Except Fault α :=
  decode value.draft

end Codec

/-! ### Scalars -/

instance : Codec Bool where
  json := .bool
  decode
    | .bool value => .ok value
    | other => .error other.fault

/-- A text, or the bytes of one. -/
instance : Codec String where
  json := .string
  decode
    | .string value => .ok value
    | .bytes bytes => match String.fromUTF8? ⟨bytes.toArray⟩ with
      | some value => .ok value
      | none => .error .mismatch
    | other => .error other.fault

/-- A whole number between two bounds; any other kind of number is refused. -/
def decodeInteger (least most : Int) : Draft → Except Fault Int
  | .integer value => if least ≤ value ∧ value ≤ most then .ok value else .error .mismatch
  | other => .error other.fault

instance : Codec UInt16 where
  json value := .integer value.toNat
  decode draft := (decodeInteger 0 (UInt16.size - 1) draft).map fun value => value.toNat.toUInt16

instance : Codec UInt32 where
  json value := .integer value.toNat
  decode draft := (decodeInteger 0 (UInt32.size - 1) draft).map fun value => value.toNat.toUInt32

instance : Codec UInt64 where
  json value := .integer value.toNat
  decode draft := (decodeInteger 0 (UInt64.size - 1) draft).map fun value => value.toNat.toUInt64

instance : Codec Int32 where
  json value := .integer value.toInt
  decode draft :=
    (decodeInteger Int32.minValue.toInt Int32.maxValue.toInt draft).map Int32.ofInt

instance : Codec Int64 where
  json value := .integer value.toInt
  decode draft :=
    (decodeInteger Int64.minValue.toInt Int64.maxValue.toInt draft).map Int64.ofInt

/-- Any value, once it was read to its end. -/
instance : Codec Json where
  json value := value
  decode draft := match draft.json? with
    | some value => .ok value
    | none => .error .malformed

instance : Codec Date where
  json date := .string (String.ofList date.text)
  decode
    | .string value => match Date.read? value.toList with
      | some date => .ok date
      | none => .error .mismatch
    | other => .error other.fault

instance : Codec Instant where
  json instant := .string (String.ofList instant.text)
  decode
    | .string value => match Instant.read? value.toList with
      | some instant => .ok instant
      | none => .error .mismatch
    | other => .error other.fault

/-! ### Lists and optional values -/

/-- Decodes items in order, up to the first fault. -/
def decodeItems {α : Type} [Codec α] : List Draft → Except Fault (List α)
  | [] => .ok []
  | item :: items =>
    match (Codec.decode item : Except Fault α) with
    | .error fault => .error fault
    | .ok value => (decodeItems items).map (value :: ·)

instance {α : Type} [Codec α] : Codec (List α) where
  json values := .array (values.map Codec.json)
  decode
    | .array items ending =>
      match decodeItems items with
      | .error fault => .error fault
      | .ok values => if ending = .broken then .error .malformed else .ok values
    | other => .error other.fault

/-- A missing value is null. -/
instance {α : Type} [Codec α] : Codec (Option α) where
  json
    | some value => Codec.json value
    | none => .null
  decode
    | .null => .ok none
    | draft => (Codec.decode draft).map some

end Syllabus
