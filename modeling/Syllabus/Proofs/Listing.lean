/-
**Membership lists of records.**

A course lists its lessons and a lesson its contents. The store edits such a list in a document; here
it is said what this does to the record.

* `Listing` — the kinds of records that list others, with the field of the list;
* `Listing.edited` — a record with its list edited;
* **`Listing.withMembership_stored`** — the edit of a stored record stores the edited record, and
  counts a change exactly if the list changed.
-/

import Syllabus.Proofs.ReadBack.Record

namespace Syllabus

/-- What an edit makes of a membership list. -/
def Membership.edited (child : String) : Membership → List String → List String
  | .push, members => members ++ [child]
  | .pull, members => members.filter (· != child)

/-- The membership lists. -/
inductive Listing : RecordKind → Type where
  | lessons : Listing .course
  | contents : Listing .lesson

namespace Listing

variable {kind : RecordKind}

/-- The field of the list. -/
def field : Listing kind → String
  | .lessons => Course.lessonsField
  | .contents => Lesson.contentsField

/-- The ids on the list of a record. -/
def members : (listing : Listing kind) → kind.Carrier → List String
  | .lessons, record => Course.lessons record
  | .contents, record => Lesson.contents record

/-- A record with other ids on its list. -/
def withMembers : (listing : Listing kind) → List String → kind.Carrier → kind.Carrier
  | .lessons, ids, record => { (record : Course) with lessons := ids }
  | .contents, ids, record => { (record : Lesson) with contents := ids }

/-- A record with its list edited. -/
def edited (listing : Listing kind) (membership : Membership) (child : String)
    (record : kind.Carrier) : kind.Carrier :=
  listing.withMembers (membership.edited child (listing.members record)) record

@[simp]
theorem members_withMembers (listing : Listing kind) (ids : List String) (record : kind.Carrier) :
    listing.members (listing.withMembers ids record) = ids := by
  cases listing <;> rfl

@[simp]
theorem withMembers_members (listing : Listing kind) (record : kind.Carrier) :
    listing.withMembers (listing.members record) record = record := by
  cases listing <;> rfl

@[simp]
theorem id_withMembers (listing : Listing kind) (ids : List String) (record : kind.Carrier) :
    Record.id (listing.withMembers ids record) = Record.id record := by
  cases listing <;> rfl

@[simp]
theorem course?_withMembers (listing : Listing kind) (ids : List String) (record : kind.Carrier) :
    Record.course? (listing.withMembers ids record) = Record.course? record := by
  cases listing <;> rfl

theorem id_edited (listing : Listing kind) (membership : Membership) (child : String)
    (record : kind.Carrier) : Record.id (listing.edited membership child record) = Record.id record :=
  listing.id_withMembers _ record

/-- A record stays at its place when its list is edited. -/
theorem place_edited (listing : Listing kind) (membership : Membership) (child : String)
    (record : kind.Carrier) :
    Record.place (listing.edited membership child record) = Record.place record := by
  rw [Record.place, Record.place, edited, course?_withMembers]

theorem members_edited (listing : Listing kind) (membership : Membership) (child : String)
    (record : kind.Carrier) :
    listing.members (listing.edited membership child record) =
      membership.edited child (listing.members record) :=
  listing.members_withMembers _ record

theorem edited_eq_self_iff (listing : Listing kind) (membership : Membership) (child : String)
    (record : kind.Carrier) :
    listing.edited membership child record = record ↔
      membership.edited child (listing.members record) = listing.members record := by
  constructor
  · intro same
    have ids := congrArg listing.members same
    rwa [edited, members_withMembers] at ids
  · intro same
    rw [edited, same, withMembers_members]

/-! ### The list in a stored record -/

theorem itemsStored_strings (ids : List String) :
    Json.itemsStored (ids.map Json.string) = ids.map Bson.string := by
  rw [Json.itemsStored_eq_map, List.map_map]
  rfl

/-- The list as it is stored. -/
theorem get?_stored (listing : Listing kind) (id : String) (version : Int64)
    (record : kind.Carrier) :
    (Records.stored id version record).get? listing.field =
      some (.array ((listing.members record).map .string)) := by
  rw [← itemsStored_strings]
  cases listing <;> rfl

/-- Setting the field of the list stores the record with other ids on its list. -/
theorem insert_stored (listing : Listing kind) (id : String) (version : Int64) (ids : List String)
    (record : kind.Carrier) :
    (Records.stored id version record).insert listing.field (.array (ids.map .string)) =
      Records.stored id version (listing.withMembers ids record) := by
  rw [← itemsStored_strings]
  cases listing <;> rfl

/-- The items that a pull leaves are those of the list without the child. -/
theorem filter_items (child : String) (ids : List String) :
    (ids.map Bson.string).filter (!·.same (.string child)) =
      (Membership.pull.edited child ids).map .string := by
  rw [Membership.edited, List.filter_map]
  congr 2

/-- **The edit of a stored record stores the edited record**, and counts a change exactly if the list
changed. -/
theorem withMembership_stored (listing : Listing kind) (membership : Membership) (child id : String)
    (version : Int64) (record : kind.Carrier) :
    (Records.stored id version record).withMembership membership listing.field (.string child) =
      some (Records.stored id
        (if membership.edited child (listing.members record) = listing.members record then version
          else version + 1)
        (listing.edited membership child record)) := by
  have bumped : ∀ ids : List String,
      ((Records.stored id version record).insert listing.field
        (.array (ids.map .string))).bumped =
      Records.stored id (version + 1) (listing.withMembers ids record) := fun ids => by
    rw [insert_stored, Records.bumped_stored]
  rw [Document.withMembership, get?_stored]
  cases membership with
  | push =>
    have changed : Membership.push.edited child (listing.members record) ≠ listing.members record := by
      simp [Membership.edited]
    have items : (listing.members record).map Bson.string ++ [.string child] =
        (Membership.push.edited child (listing.members record)).map .string := by
      simp [Membership.edited]
    simp only [Membership.edit]
    rw [items, bumped, if_neg changed, edited]
  | pull =>
    simp only [Membership.edit, filter_items, List.length_map]
    have kept : (Membership.pull.edited child (listing.members record)).length =
        (listing.members record).length ↔
        Membership.pull.edited child (listing.members record) = listing.members record :=
      List.length_filter_eq_length_iff.trans List.filter_eq_self.symm
    by_cases same : Membership.pull.edited child (listing.members record) = listing.members record
    · simp only [same, if_true, edited, withMembers_members]
    · simp only [mt kept.mp same, if_false, if_neg same, bumped, edited]

end Listing

end Syllabus
