/-
**Filters.**

A filter is a list of conditions on fields that a document has to meet together.

* `Filter.accepts` — a document meets the filter: null stands for a missing field too, and a
  value for any array that holds it;
* `Filter.document` — the filter as a document, where the last condition on a field counts;
* `Filter.asksAll` — what such a document asks for, said without the filter it came from.
-/

import Syllabus.Bson.Basic

namespace Syllabus

/-- The field that holds a document's key. -/
def idKey : String := "_id"

/-- The field that counts a document's changes. -/
def versionKey : String := "_version"

/-- What a filter asks of a field. -/
inductive Condition where
  | eq (value : Bson)
  | ne (value : Bson)
  | oneOf (values : List Bson)

/-- Conditions on fields, all to be met. -/
structure Filter where
  clauses : List (String × Condition)

/-- A field's value answers to the one asked for: it is equal to it or an array that holds it, and a
missing field answers to null. -/
def valueMatches : Option Bson → Bson → Bool
  | none, .null => true
  | none, _ => false
  | some (.array items), asked => (Bson.array items).same asked || items.any (·.same asked)
  | some value, asked => value.same asked

/-- A field's value meets a condition. -/
def Condition.holds (value : Option Bson) : Condition → Bool
  | .eq asked => valueMatches value asked
  | .ne excluded => !valueMatches value excluded
  | .oneOf listed => listed.any (valueMatches value ·)

namespace Filter

/-- The filter that every document meets. -/
def all : Filter := ⟨[]⟩

/-- A filter with one more condition, after the others. -/
def also (filter : Filter) (field : String) (condition : Condition) : Filter :=
  ⟨filter.clauses ++ [(field, condition)]⟩

/-- The filter for one key. -/
def byId (id : String) : Filter :=
  ⟨[(idKey, .eq (.string id))]⟩

/-- The document meets the filter. -/
def accepts (filter : Filter) (document : Document) : Bool :=
  filter.clauses.all fun (field, condition) => condition.holds (document.get? field)

/-! ### Filters as documents -/

/-- The operator that excludes a value. -/
def excludeKey : String := "$ne"

/-- The operator that lists values. -/
def listKey : String := "$in"

end Filter

/-- A condition as the value of its field: the value asked for, or a document of one operator. -/
def Condition.rendered : Condition → Bson
  | .eq value => value
  | .ne value => .document [(Filter.excludeKey, value)]
  | .oneOf values => .document [(Filter.listKey, .array values)]

namespace Filter

/-- A filter as a document. -/
def document (filter : Filter) : Document :=
  filter.clauses.foldl
    (fun document (field, condition) => document.insert field condition.rendered) []

/-- What the value of a field in a filter document asks of a document's field. -/
def asks (value : Option Bson) : Bson → Bool
  | .document [(operator, argument)] =>
    if operator = excludeKey then !valueMatches value argument
    else match argument with
      | .array listed =>
        if operator = listKey then listed.any (valueMatches value ·)
        else valueMatches value (.document [(operator, argument)])
      | argument => valueMatches value (.document [(operator, argument)])
  | asked => valueMatches value asked

/-- What a filter document asks for: every one of its fields has what its value asks. -/
def asksAll (filter document : Document) : Bool :=
  filter.all fun (field, asked) => asks (document.get? field) asked

end Filter

end Syllabus
