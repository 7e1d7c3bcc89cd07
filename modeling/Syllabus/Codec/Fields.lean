/-
**Records as lists of fields.**

A record type is described by its fields, and one pair of functions writes and decodes them all.

* `Field` — a key, how it is written, and what a value read for it does to the record;
* `Fielded` — a type with a blank record and its fields in order;
* `decodeMembers` — an object: unknown keys are passed over, a known key may come once;
* `decodeElements` — a list: the values of the fields in order, the last of them left out at will.
-/

import Syllabus.Codec.Basic

namespace Syllabus

/-- One field of the records of a type. -/
structure Field (ρ : Type) where
  key : String
  /-- A record without the field cannot be decoded. -/
  required : Bool
  /-- The value as it is written; none for a field that is kept secret. -/
  json : ρ → Option Json
  /-- What a value read for the field does to the record. -/
  decode : Draft → Except Fault (ρ → ρ)

namespace Field

variable {ρ α : Type} [Codec α]

/-- A field that keeps its blank value when it is missing. -/
def optional (key : String) (get : ρ → α) (set : α → ρ → ρ) : Field ρ where
  key := key
  required := false
  json record := some (Codec.json (get record))
  decode draft := (Codec.decode draft).map set

/-- A field that may not be missing. -/
def mandatory (key : String) (get : ρ → α) (set : α → ρ → ρ) : Field ρ :=
  { optional key get set with required := true }

/-- A field that is read but never written. -/
def secret (key : String) (set : α → ρ → ρ) : Field ρ where
  key := key
  required := false
  json _ := none
  decode draft := (Codec.decode draft).map set

end Field

/-- A type of records: a blank one and the fields in order. -/
class Fielded (ρ : Type) where
  blank : ρ
  fields : List (Field ρ)

section Decoding

variable {ρ : Type}

/-- Decodes the members of an object into a record, with the known keys met so far. A member
without a key is malformed, since no field can be looked up for it. -/
def decodeMembers (fields : List (Field ρ)) :
    List String → ρ → List (Option String × Draft) → Except Fault (List String × ρ)
  | met, record, [] => .ok (met, record)
  | met, record, (some key, value) :: members =>
    match fields.find? (·.key == key) with
    | none =>
      if value.intact then decodeMembers fields met record members else .error .malformed
    | some field =>
      if met.contains key then .error .mismatch
      else match field.decode value with
        | .error fault => .error fault
        | .ok change => decodeMembers fields (key :: met) (change record) members
  | _, _, (none, _) :: _ => .error .malformed

/-- Decodes the items of a list into the fields of a record, in order. A closed list may not have
more items than there are fields. -/
def decodeElements : List (Field ρ) → ρ → List Draft → Ending → Except Fault ρ
  | _, _, [], .broken => .error .malformed
  | fields, record, [], _ => if fields.any (·.required) then .error .mismatch else .ok record
  | [], record, _ :: _, .lenient => .ok record
  | [], _, _ :: _, _ => .error .malformed
  | field :: fields, record, item :: items, ending =>
    match field.decode item with
    | .error fault => .error fault
    | .ok change => decodeElements fields (change record) items ending

/-- Decodes a record from an object of its fields or from a list of them. -/
def decodeFielded [Fielded ρ] : Draft → Except Fault ρ
  | .object members ending =>
    match decodeMembers Fielded.fields [] (Fielded.blank : ρ) members with
    | .error fault => .error fault
    | .ok (met, record) =>
      if ending = .broken then .error .malformed
      else if (Fielded.fields : List (Field ρ)).all fun field =>
          !field.required || met.contains field.key
        then .ok record
      else .error .mismatch
  | .array items ending => decodeElements Fielded.fields (Fielded.blank : ρ) items ending
  | other => .error other.fault

/-- The members that a record is written with. -/
def fieldMembers [Fielded ρ] (record : ρ) : List (String × Json) :=
  (Fielded.fields : List (Field ρ)).filterMap fun field =>
    (field.json record).map fun value => (field.key, value)

end Decoding

instance {ρ : Type} [Fielded ρ] : Codec ρ where
  json record := .object (fieldMembers record)
  decode := decodeFielded

end Syllabus
