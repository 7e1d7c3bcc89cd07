/-
**Records are read back from their documents.**

* `LawfulRecord` — a type of records whose fields restore a record and leave the names of key and
  version free, and whose updates change neither key nor course;
* `RecordKind.Carrier` — the type of the records of a kind, so that a statement on any kind is one on
  all four types;
* **`Records.ofDocument_stored`**, `Records.decode_stored` — the document of a record, with key and
  version, decodes to it;
* `Records.get?_stored_id`, `Records.get?_stored_version`, `Records.byId_accepts_stored` — key and
  version of such a document, and the filters that it meets.
-/

import Syllabus.Curriculum
import Syllabus.Proofs.ReadBack.Codec
import Syllabus.Record.User

namespace Syllabus

/-! ### The types of records -/

instance : LawfulCodec Role where
  decode_stored role := by cases role <;> rfl

instance : SolidCodec Role where
  draft_ne_null _ := Draft.noConfusion

instance : LawfulFielded Enrollment where
  faithful := by simp [Fielded.fields, Field.faithful_optional]
  distinct := by decide
  optional := by simp [Fielded.fields, Field.optional]
  restored source := by simp [Fielded.fields]

instance : LawfulFielded Bio where
  faithful := by simp [Fielded.fields, Field.faithful_optional]
  distinct := by decide
  optional := by simp [Fielded.fields, Field.optional]
  restored source := by simp [Fielded.fields]

/-- A type of records that are kept in a store: their fields restore a record, no field has the name
of the key or the version, and an update changes neither the key nor the course. -/
class LawfulRecord (ρ : Type) [Record ρ] : Prop extends LawfulFielded ρ where
  id_unlisted : idKey ∉ (Fielded.fields : List (Field ρ)).map Field.key
  version_unlisted : versionKey ∉ (Fielded.fields : List (Field ρ)).map Field.key
  id_merge : ∀ existing update : ρ, Record.id (merge existing update) = Record.id existing
  course?_merge : ∀ existing update : ρ,
    Record.course? (merge existing update) = Record.course? existing

instance : LawfulRecord Course where
  faithful := by simp [Fielded.fields, Course.fields, Field.faithful_optional]
  distinct := by decide
  optional := by simp [Fielded.fields, Course.fields, Field.optional]
  restored source := by simp [Fielded.fields, Course.fields]
  id_unlisted := by decide
  version_unlisted := by decide
  id_merge _ _ := rfl
  course?_merge _ _ := rfl

instance : LawfulRecord Lesson where
  faithful := by simp [Fielded.fields, Lesson.fields, Field.faithful_optional]
  distinct := by decide
  optional := by simp [Fielded.fields, Lesson.fields, Field.optional]
  restored source := by simp [Fielded.fields, Lesson.fields]
  id_unlisted := by decide
  version_unlisted := by decide
  id_merge _ _ := rfl
  course?_merge _ _ := rfl

instance : LawfulRecord Content where
  faithful := by simp [Fielded.fields, Content.fields, Field.faithful_optional]
  distinct := by decide
  optional := by simp [Fielded.fields, Content.fields, Field.optional]
  restored source := by simp [Fielded.fields, Content.fields]
  id_unlisted := by decide
  version_unlisted := by decide
  id_merge _ _ := rfl
  course?_merge _ _ := rfl

instance : LawfulRecord User where
  faithful := by simp [Fielded.fields, User.fields, Field.faithful_optional]
  distinct := by decide
  optional := by simp [Fielded.fields, User.fields, Field.optional]
  restored source := by simp [Fielded.fields, User.fields]
  id_unlisted := by decide
  version_unlisted := by decide
  id_merge _ _ := rfl
  course?_merge _ _ := rfl

namespace RecordKind

/-- The type of the records of a kind. -/
def Carrier : RecordKind → Type
  | .course => Course
  | .lesson => Lesson
  | .content => Content
  | .user => User

instance : (kind : RecordKind) → Record kind.Carrier
  | .course => inferInstanceAs (Record Course)
  | .lesson => inferInstanceAs (Record Lesson)
  | .content => inferInstanceAs (Record Content)
  | .user => inferInstanceAs (Record User)

instance : (kind : RecordKind) → LawfulRecord kind.Carrier
  | .course => inferInstanceAs (LawfulRecord Course)
  | .lesson => inferInstanceAs (LawfulRecord Lesson)
  | .content => inferInstanceAs (LawfulRecord Content)
  | .user => inferInstanceAs (LawfulRecord User)

instance : (kind : RecordKind) → DecidableEq kind.Carrier
  | .course => inferInstanceAs (DecidableEq Course)
  | .lesson => inferInstanceAs (DecidableEq Lesson)
  | .content => inferInstanceAs (DecidableEq Content)
  | .user => inferInstanceAs (DecidableEq User)

end RecordKind

/-! ### Their documents -/

namespace Document

/-- Setting a field that a document has not puts it at the end. -/
theorem insert_of_get?_eq_none {key : String} {document : Document}
    (absent : document.get? key = none) (value : Bson) :
    document.insert key value = document ++ [(key, value)] := by
  induction document with
  | nil => rfl
  | cons field rest ih =>
    obtain ⟨name, old⟩ := field
    by_cases same : name = key
    · simp [get?, same] at absent
    · simp only [get?, same, if_false] at absent
      simp only [insert, same, if_false, ih absent, List.cons_append]

theorem get?_append_of_eq_none {key : String} {front : Document} (absent : front.get? key = none)
    (back : Document) : get? key (front ++ back) = back.get? key := by
  induction front with
  | nil => rfl
  | cons field rest ih =>
    obtain ⟨name, value⟩ := field
    by_cases same : name = key
    · simp [get?, same] at absent
    · simp only [get?, same, if_false] at absent
      simp only [List.cons_append, get?, same, if_false, ih absent]

/-- Setting a field again replaces its value. -/
theorem insert_insert_self (key : String) (first second : Bson) (document : Document) :
    (document.insert key first).insert key second = document.insert key second := by
  induction document with
  | nil => simp [insert]
  | cons field rest ih =>
    obtain ⟨name, old⟩ := field
    by_cases same : name = key <;> simp [insert, same, ih]

/-- Setting a field to the value it has changes nothing. -/
theorem insert_of_get?_eq_some {key : String} {value : Bson} {document : Document}
    (there : document.get? key = some value) : document.insert key value = document := by
  induction document with
  | nil => cases there
  | cons field rest ih =>
    obtain ⟨name, old⟩ := field
    by_cases same : name = key
    · simp only [get?, same, if_true, Option.some.injEq] at there
      simp [insert, same, there]
    · simp only [get?, same, if_false] at there
      simp [insert, same, ih there]

end Document

namespace Records

variable {ρ : Type} [Record ρ]

@[simp]
theorem get?_stored_id (id : String) (version : Int64) (record : ρ) :
    (stored id version record).get? idKey = some (.string id) := by
  rw [stored, Document.get?_insert_of_ne (by decide), Document.get?_insert_self]

@[simp]
theorem get?_stored_version (id : String) (version : Int64) (record : ρ) :
    (stored id version record).get? versionKey = some (.int64 version) := by
  rw [stored, Document.get?_insert_self]

@[simp]
theorem version_stored (id : String) (version : Int64) (record : ρ) :
    Document.version (stored id version record) = version := by
  simp [Document.version, versionNumber]

/-- A stored record answers to its own key and to no other. -/
@[simp]
theorem byId_accepts_stored (asked id : String) (version : Int64) (record : ρ) :
    (Filter.byId asked).accepts (stored id version record) = (id == asked) := by
  simp [Filter.accepts, Filter.byId, Condition.holds, valueMatches]

/-- The guard of an update accepts the version that was read and no other. -/
@[simp]
theorem guard_accepts_stored (asked id : String) (expected version : Int64) (record : ρ) :
    ((Filter.byId asked).also versionKey (.eq (.int64 expected))).accepts
      (stored id version record) = (id == asked && version == expected) := by
  simp [Filter.accepts, Filter.byId, Filter.also, Condition.holds, valueMatches, Bson.same]

/-- A stored record that replaces a document with its key is stored as it is. -/
theorem replacement_stored {id : String} {old : Document}
    (keyed : old.get? idKey = some (.string id)) (version : Int64) (record : ρ) :
    Store.replacement old (stored id version record) = stored id version record := by
  rw [Store.replacement, keyed]
  exact Document.insert_of_get?_eq_some (get?_stored_id id version record)

/-- Counting a change of a stored record stores the next version. -/
theorem bumped_stored (id : String) (version : Int64) (record : ρ) :
    (stored id version record).bumped = stored id (version + 1) record := by
  rw [Document.bumped, version_stored, stored, stored, Document.insert_insert_self]

theorem get?_document_of_unlisted {key : String}
    (unlisted : key ∉ (Fielded.fields : List (Field ρ)).map Field.key) (record : ρ) :
    (Record.document record).get? key = none := by
  have absent : ∀ fields : List (Field ρ), key ∉ fields.map Field.key →
      Document.get? key (Json.membersStored (fields.filterMap fun field =>
        (field.json record).map fun value => (field.key, value))) = none := by
    intro fields unlisted
    induction fields with
    | nil => rfl
    | cons field fields ih =>
      simp only [List.map_cons, List.mem_cons, not_or] at unlisted
      cases written : field.json record with
      | none => simpa [written] using ih unlisted.2
      | some value =>
        simp [written, Json.membersStored, Document.get?, Ne.symm unlisted.1, ih unlisted.2]
  exact absent Fielded.fields unlisted

variable [LawfulRecord ρ]

/-- The document of a record ends with its key and its version. -/
theorem stored_eq_append (id : String) (version : Int64) (record : ρ) :
    stored id version record =
      Record.document record ++ [(idKey, .string id), (versionKey, .int64 version)] := by
  have no_id := get?_document_of_unlisted LawfulRecord.id_unlisted record
  have no_version := get?_document_of_unlisted LawfulRecord.version_unlisted record
  have keys_differ : idKey ≠ versionKey := by decide
  have still : Document.get? versionKey (Record.document record ++ [(idKey, .string id)]) =
      none := by
    rw [Document.get?_append_of_eq_none no_version]
    simp [Document.get?, keys_differ]
  rw [stored, Document.insert_of_get?_eq_none no_id, Document.insert_of_get?_eq_none still,
    List.append_assoc]
  rfl

/-- **A stored record is read back.** -/
@[simp]
theorem ofDocument_stored (id : String) (version : Int64) (record : ρ) :
    (Record.ofDocument (stored id version record) : Except Fault ρ) = .ok record := by
  rw [stored_eq_append]
  refine decode_document_append record _ ?_ ?_
  · intro extra member
    simp only [List.mem_cons, List.not_mem_nil, or_false] at member
    rcases member with rfl | rfl
    · exact LawfulRecord.id_unlisted
    · exact LawfulRecord.version_unlisted
  · intro extra member
    simp only [List.mem_cons, List.not_mem_nil, or_false] at member
    rcases member with rfl | rfl <;> rfl

@[simp]
theorem decode_stored (ns : Namespace) (id : String) (version : Int64) (record : ρ) :
    (decode ns (stored id version record) : Except StoreError ρ) = .ok record := by
  rw [decode, ofDocument_stored]

/-- An update stays at the place of the record. -/
theorem place_merge (existing update : ρ) :
    Record.place (merge existing update) = Record.place existing := by
  rw [Record.place, Record.place, LawfulRecord.course?_merge]

end Records

end Syllabus
