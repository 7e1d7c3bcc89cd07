/-
**Stored values and documents.**

* `Bson` — a stored value; `Document` — fields in stored order, each key once;
* `Foreign` — a value of one of the kinds that no record is written with;
* `Document.get?`, `Document.insert`, `Document.erase` — the operations on fields;
* `Bson.same` — equality of values: kinds never mix, doubles compare as IEEE 754 does, documents
  regardless of the order of their fields.
-/

import Syllabus.Binary64.Basic

namespace Syllabus

/-- The twelve bytes of a generated key, as one number. -/
structure ObjectId where
  number : Nat
  deriving DecidableEq

/-- The kinds of stored values that no record is written with. -/
inductive ForeignKind where
  | binary (subtype : UInt8)
  | timestamp
  | decimal128
  | regularExpression
  | javaScript
  | symbol
  | undefined
  | minKey
  | maxKey
  | dbPointer
  deriving DecidableEq

/-- A value of such a kind. The service stores it, compares it and names it in reports, and does not
look into it. -/
structure Foreign where
  kind : ForeignKind
  /-- What the value holds, as it is encoded. -/
  bytes : List UInt8
  /-- The text that reports name the value by. A library makes it of what the value holds. -/
  text : String

/-- A stored value. -/
inductive Bson where
  | null
  | bool (value : Bool)
  | int32 (value : Int32)
  | int64 (value : Int64)
  | double (value : Binary64)
  | string (value : String)
  | objectId (value : ObjectId)
  /-- Milliseconds since 1970. -/
  | dateTime (millis : Int64)
  | foreign (value : Foreign)
  /-- A script, and the variables that it is run with. -/
  | scopedScript (code : String) (scope : List (String × Bson))
  | array (items : List Bson)
  | document (fields : List (String × Bson))

/-- A stored document: its fields in order. -/
abbrev Document := List (String × Bson)

namespace Document

/-- The value of a field. -/
def get? (key : String) : Document → Option Bson
  | [] => none
  | (name, value) :: rest => if name = key then some value else get? key rest

/-- A document with the field set: in its place if it has one, at the end otherwise. -/
def insert (key : String) (value : Bson) : Document → Document
  | [] => [(key, value)]
  | (name, old) :: rest =>
    if name = key then (name, value) :: rest else (name, old) :: insert key value rest

/-- A document without the field. -/
def erase (key : String) : Document → Document
  | [] => []
  | (name, value) :: rest => if name = key then rest else (name, value) :: erase key rest

/-- The document of these fields, inserted in turn. -/
def ofPairs (pairs : List (String × Bson)) : Document :=
  pairs.foldl (fun document (key, value) => document.insert key value) []

/-- A field that was set has its value. -/
@[simp]
theorem get?_insert_self (key : String) (value : Bson) (document : Document) :
    (document.insert key value).get? key = some value := by
  induction document with
  | nil => simp [insert, get?]
  | cons field rest ih =>
    obtain ⟨name, old⟩ := field
    by_cases same : name = key <;> simp [insert, get?, same, ih]

/-- Setting a field leaves the others. -/
theorem get?_insert_of_ne {key other : String} (different : other ≠ key) (value : Bson)
    (document : Document) : (document.insert key value).get? other = document.get? other := by
  induction document with
  | nil => simp [insert, get?, different.symm]
  | cons field rest ih =>
    obtain ⟨name, old⟩ := field
    by_cases same : name = key
    · simp [insert, get?, same, different.symm]
    · by_cases here : name = other <;> simp_all [insert, get?]

end Document

namespace Bson

mutual

/-- Equality of stored values. -/
def same : Bson → Bson → Bool
  | .null, .null => true
  | .bool x, .bool y => x == y
  | .int32 x, .int32 y => x == y
  | .int64 x, .int64 y => x == y
  | .double x, .double y => x.same y
  | .string x, .string y => x == y
  | .objectId x, .objectId y => x == y
  | .dateTime x, .dateTime y => x == y
  | .foreign x, .foreign y => x.kind == y.kind && x.bytes == y.bytes
  | .scopedScript code xs, .scopedScript code' ys =>
    code == code' && xs.length == ys.length && fieldsSame xs ys
  | .array xs, .array ys => itemsSame xs ys
  | .document xs, .document ys => xs.length == ys.length && fieldsSame xs ys
  | _, _ => false

/-- Equality of items, in order. -/
def itemsSame : List Bson → List Bson → Bool
  | [], [] => true
  | x :: xs, y :: ys => x.same y && itemsSame xs ys
  | _, _ => false

/-- The fields are all found in the other document, with equal values. -/
def fieldsSame : List (String × Bson) → Document → Bool
  | [], _ => true
  | (key, x) :: rest, ys =>
    (match Document.get? key ys with
      | some y => x.same y
      | none => false) && fieldsSame rest ys

end

/-- Texts are equal as texts. -/
@[simp]
theorem same_string (x y : String) : same (.string x) (.string y) = (x == y) := by
  simp [same]

end Bson

end Syllabus
