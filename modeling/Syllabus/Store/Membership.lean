/-
**Edits of membership lists.**

* `Membership` — adding an element to a list field of a document, or removing it;
* `Membership.edit` — the edit of a field: what it becomes, or that it is no list;
* `Document.withMembership` — the edit of a document, which counts its changes.
-/

import Syllabus.Filter

namespace Syllabus

/-- An edit of a membership list. -/
inductive Membership where
  | push
  | pull
  deriving DecidableEq

/-- What an edit makes of a field. -/
inductive Membership.Outcome where
  /-- The field gets this value. -/
  | changed (value : Bson)
  /-- The field stays as it is. -/
  | unchanged
  /-- The field is not a list. -/
  | notAnArray

namespace Membership

/-- The word for an edit. -/
def text : Membership → String
  | .push => "push"
  | .pull => "pull"

/-- What an edit makes of a field. An element is pushed onto a list, and onto a missing or null
field as onto the empty list; all elements equal to a pulled one leave the list, and a single value
equal to it is refused. -/
def edit (element : Bson) : Membership → Option Bson → Outcome
  | .push, some (.array items) => .changed (.array (items ++ [element]))
  | .push, none | .push, some .null => .changed (.array [element])
  | .push, some _ => .notAnArray
  | .pull, some (.array items) =>
    let kept := items.filter (!·.same element)
    if kept.length = items.length then .unchanged else .changed (.array kept)
  | .pull, some value => if value.same element then .notAnArray else .unchanged
  | .pull, none => .unchanged

end Membership

/-- The version a document counts: a missing one, or one that is no whole number, counts as zero. -/
def versionNumber : Bson → Int64
  | .int64 version => version
  | .int32 version => version.toInt64
  | _ => 0

namespace Document

/-- The version a document counts. -/
def version (document : Document) : Int64 :=
  versionNumber ((document.get? versionKey).getD .null)

/-- The document with one more change counted. -/
def bumped (document : Document) : Document :=
  document.insert versionKey (.int64 (document.version + 1))

/-- The document after an edit of a list field; none if the field is not a list. -/
def withMembership (membership : Membership) (field : String) (element : Bson)
    (document : Document) : Option Document :=
  match membership.edit element (document.get? field) with
  | .changed value => some (document.insert field value).bumped
  | .unchanged => some document
  | .notAnArray => none

/-- An edit of a field leaves the others, apart from the version. -/
theorem get?_withMembership {membership : Membership} {field key : String} {element : Bson}
    {document edited : Document} (different : key ≠ field) (unversioned : key ≠ versionKey)
    (made : document.withMembership membership field element = some edited) :
    edited.get? key = document.get? key := by
  unfold withMembership at made
  split at made
  · cases made
    rw [bumped, get?_insert_of_ne unversioned, get?_insert_of_ne different]
  · cases made
    rfl
  · cases made

end Document

end Syllabus
