/-
**Stores whose documents stand for records.**

A store may have been filled by others than the operations on records. Of its courses, lessons and
contents nothing is taken for granted but that each document decodes, has the id of its record as its
key, and lies in the database of its course: fields may be missing or unknown, versions of any kind, and
keys may come twice.

* `Document.Represents` — the document stands for a record; `Store.Regular` — all documents do;
  `Store.Kept.regular` — those that the operations on records have made;
* `Store.Patched` — a store with one document added, removed or replaced;
* `Store.insertOne_cases`, `Store.deleteOne_cases`, `Store.replaceOne_cases`,
  `Store.editMembership_cases` — every write patches the store or leaves it.
-/

import Syllabus.Proofs.Bond
import Syllabus.Proofs.ReadBack.Edit

namespace Syllabus

/-- The document decodes to the record, has its id as key, and lies in the database of its course. -/
structure Document.Represents {kind : RecordKind} (document : Document) (c : String)
    (record : kind.Carrier) : Prop where
  decodes : (Record.ofDocument document : Except Fault kind.Carrier) = .ok record
  keyed : document.get? idKey = some (.string (Record.id record))
  housed : ∀ name, Record.course? record = some name → name = c

namespace Document.Represents

variable {kind : RecordKind} {c : String} {document : Document} {record : kind.Carrier}

/-- A record that is stored at its place is represented there. -/
theorem of_stored (placed : Record.place record = .ok (kind.home c)) (version : Int64) :
    (Records.stored (Record.id record) version record).Represents c record where
  decodes := Records.ofDocument_stored ..
  keyed := Records.get?_stored_id ..
  housed := by
    intro name named
    cases kind with
    | course | user => cases named
    | lesson =>
      cases named
      exact (congrArg Namespace.database (Lesson.place_eq placed)).symm
    | content =>
      cases named
      exact (congrArg Namespace.database (Content.place_eq placed)).symm

/-- It answers to the id of its record and to no other key. -/
theorem answers (represents : document.Represents c record) (asked : String) :
    (Filter.byId asked).accepts document = (Record.id record == asked) := by
  simp [Filter.accepts, Filter.byId, Condition.holds, represents.keyed, valueMatches]

theorem id_eq_of_guard (represents : document.Represents c record) {id : String} {previous : Bson}
    (accepted : (Filter.guard id previous).accepts document = true) : Record.id record = id := by
  cases answers : (Filter.byId id).accepts document with
  | false =>
    rw [Store.guard_unmet answers] at accepted
    cases accepted
  | true => rwa [represents.answers, beq_iff_eq] at answers

/-- The record has its place where others of the course have theirs. -/
theorem place_of_place (represents : document.Represents c record) {template : kind.Carrier}
    (placed : Record.place template = .ok (kind.home c)) :
    Record.place record = .ok (kind.home c) := by
  cases kind with
  | course | user => rfl
  | lesson =>
    have here : Lesson.courseRef record = c := represents.housed _ rfl
    have there := Lesson.place_of_usable (here.symm ▸ Lesson.usable_of_place placed)
    rwa [here] at there
  | content =>
    have here : Content.courseRef record = c := represents.housed _ rfl
    have there := Content.place_of_usable (here.symm ▸ Content.usable_of_place placed)
    rwa [here] at there

theorem decode_eq (represents : document.Represents c record) (ns : Namespace) :
    (Records.decode ns document : Except StoreError kind.Carrier) = .ok record := by
  rw [Records.decode, represents.decodes]

/-- Courses are all in one place, so that for a course any other will do. -/
theorem of_home_eq (represents : document.Represents c record) {d : String}
    (same : kind.home c = kind.home d) : document.Represents d record where
  decodes := represents.decodes
  keyed := represents.keyed
  housed name named := by
    have database := congrArg Namespace.database same
    cases kind with
    | course | user => cases named
    | lesson | content => exact (represents.housed name named).trans database

/-- After an edit of the list it represents the record with other ids on its list: those of the edited
list if one was added, or if all were stored as texts. -/
theorem edited (represents : document.Represents c record) (listing : Listing kind)
    {membership : Membership} {child : String} {edited : Document}
    (made : document.withMembership membership listing.field (.string child) = some edited) :
    ∃ ids, edited.Represents c (listing.withMembers ids record) ∧
      (membership = .push ∨ listing.StoresTexts document →
        ids = membership.edited child (listing.members record)) := by
  obtain ⟨ids, decodes, plainly⟩ :=
    listing.decodes_of_withMembership membership child represents.decodes made
  refine ⟨ids, ⟨decodes, ?_, fun name named => represents.housed name ?_⟩, plainly⟩
  · have apart : idKey ≠ listing.field := by
      cases listing <;> decide
    rw [Document.get?_withMembership apart (by decide) made, represents.keyed,
      listing.id_withMembers]
  · rwa [listing.course?_withMembers] at named

/-- A merged record that is written in its place is represented. -/
theorem merged (represents : document.Represents c record) (change : kind.Carrier)
    (version : Int64) :
    (Records.stored (Record.id record) version (merge record change)).Represents c
      (merge record change) where
  decodes := Records.ofDocument_stored ..
  keyed := by rw [LawfulRecord.id_merge, Records.get?_stored_id]
  housed name named := represents.housed name (by rwa [LawfulRecord.course?_merge] at named)

end Document.Represents

namespace Store

/-- The courses, lessons and contents are documents that represent records. -/
def Regular (store : Store) : Prop :=
  ∀ kind : RecordKind, kind ≠ .user → ∀ c, ∀ document ∈ store.documents (kind.home c),
    ∃ record : kind.Carrier, document.Represents c record

/-- Records under their keys and at their places are represented. -/
theorem Kept.regular {store : Store} (kept : store.Kept) : store.Regular := by
  intro kind someone c document member
  obtain ⟨entries, shelf⟩ := kept kind someone c
  rw [shelf.documents] at member
  obtain ⟨entry, known, rfl⟩ := List.mem_map.mp member
  exact ⟨entry.record, .of_stored (shelf.placed entry known) entry.version⟩

/-- What is found under a key represents a record with the key. -/
theorem Regular.of_findOne {store : Store} (regular : store.Regular) {kind : RecordKind}
    (someone : kind ≠ .user) {c id : String} {document : Document}
    (found : store.findOne (kind.home c) (.byId id) = some document) :
    ∃ record : kind.Carrier, document.Represents c record ∧ Record.id record = id := by
  obtain ⟨record, represents⟩ := regular kind someone c document (List.mem_of_find?_eq_some found)
  have answers := List.find?_some found
  rw [represents.answers, beq_iff_eq] at answers
  exact ⟨record, represents, answers⟩

/-! ### Writes -/

/-- At one point of a namespace a document was removed, another put there, or both, and nothing else is
changed. -/
structure Patched (old next : Store) (ns : Namespace) (before after : Option Document) : Prop where
  here : ∃ front back, old.documents ns = front ++ (before.toList ++ back) ∧
    next.documents ns = front ++ (after.toList ++ back)
  elsewhere : ∀ other, other ≠ ns → next.documents other = old.documents other

/-- What is there was there before, or was put there. -/
theorem Patched.mem {old next : Store} {ns : Namespace} {before after : Option Document}
    (patched : old.Patched next ns before after) {document : Document}
    (member : document ∈ next.documents ns) : document ∈ old.documents ns ∨ after = some document := by
  obtain ⟨front, back, held, left⟩ := patched.here
  rw [left, List.mem_append, List.mem_append, Option.mem_toList] at member
  rw [held, List.mem_append, List.mem_append]
  rcases member with early | here | late
  · exact .inl (.inl early)
  · exact .inr here
  · exact .inl (.inr (.inr late))

/-- A regular store stays so if what was put there represents a record. -/
theorem Patched.regular {old next : Store} {kind : RecordKind} {c : String}
    {before after : Option Document} (patched : old.Patched next (kind.home c) before after)
    (regular : old.Regular)
    (represented : ∀ document, after = some document →
      ∃ record : kind.Carrier, document.Represents c record) : next.Regular := by
  intro other someone d document member
  by_cases there : other.home d = kind.home c
  · cases RecordKind.eq_of_home_eq there
    rw [there] at member
    rcases patched.mem member with before | here
    · exact regular _ someone d document (there ▸ before)
    · obtain ⟨record, represents⟩ := represented document here
      exact ⟨record, represents.of_home_eq there.symm⟩
  · rw [patched.elsewhere _ there] at member
    exact regular other someone d document member

variable {store : Store} {ns : Namespace} {document : Document}

theorem insertOne_cases (spare : ObjectId) (store : Store) (ns : Namespace) {key : Bson}
    (keyed : document.get? idKey = some key) :
    (∃ error, store.insertOne spare ns document = (.error error, store)) ∨
      (store.insertOne spare ns document).1 = .ok key ∧
      store.Patched (store.insertOne spare ns document).2 ns none (some document) := by
  have entry : Store.keyed spare document = (key, document) := by
    rw [Store.keyed, keyed]
  cases answer : (store.insertOne spare ns document).1 with
  | error error => exact .inl ⟨error, Prod.ext answer (insertOne_of_error answer)⟩
  | ok answered =>
    have last := documents_insertOne_of_ok answer
    have same : answered = key := by
      unfold insertOne at answer
      simp only [entry] at answer
      split at answer
      · cases answer
      · exact (Except.ok.inj answer).symm
    rw [entry] at last
    refine .inr ⟨same ▸ rfl, ⟨store.documents ns, [], by simp, by simpa using last⟩, ?_⟩
    exact fun other different => documents_insertOne_of_ne different store spare document

/-- Where a document is found, it is the first of its namespace that meets the filter. -/
theorem findOne_eq_some {filter : Filter} (found : store.findOne ns filter = some document) :
    filter.accepts document = true ∧ ∃ front back, store.documents ns = front ++ document :: back ∧
      ∀ other ∈ front, filter.accepts other = false := by
  obtain ⟨accepted, front, back, parts, others⟩ := List.find?_eq_some_iff_append.mp found
  exact ⟨accepted, front, back, parts, fun other before => by simpa using others other before⟩

theorem any_accepts_of_findOne {filter : Filter} (found : store.findOne ns filter = some document) :
    (store.documents ns).any filter.accepts = true :=
  List.any_eq_true.mpr ⟨document, List.mem_of_find?_eq_some found, List.find?_some found⟩

theorem not_any_accepts_of_findOne {filter : Filter} (missing : store.findOne ns filter = none) :
    ¬ (store.documents ns).any filter.accepts = true := by
  simpa using List.find?_eq_none.mp missing

theorem deleteOne_cases (store : Store) (ns : Namespace) (filter : Filter) :
    store.deleteOne ns filter = (0, store) ∨
    ∃ document, store.findOne ns filter = some document ∧ (store.deleteOne ns filter).1 = 1 ∧
      store.Patched (store.deleteOne ns filter).2 ns (some document) none := by
  cases found : store.findOne ns filter with
  | none =>
    rw [deleteOne, if_neg (not_any_accepts_of_findOne found)]
    exact .inl rfl
  | some document =>
    obtain ⟨accepted, front, back, parts, others⟩ := findOne_eq_some found
    have left : (store.deleteOne ns filter).2.documents ns = front ++ back := by
      rw [documents_deleteOne, parts, List.eraseP_append_right _ (by simpa using others),
        List.eraseP_cons_of_pos accepted]
    refine .inr ⟨document, rfl, by rw [deleteOne, if_pos (any_accepts_of_findOne found)],
      ⟨front, back, parts, left⟩, fun other different => ?_⟩
    exact documents_respond_of_ne ⟨.delete, .deleteOne ns filter⟩
      (fun written target => (Option.some.inj target).symm) different ⟨0⟩ store

theorem replaceOne_cases (store : Store) (ns : Namespace) (filter : Filter) (new : Document) :
    store.replaceOne ns filter new = (0, store) ∨
    ∃ document, store.findOne ns filter = some document ∧ (store.replaceOne ns filter new).1 = 1 ∧
      store.Patched (store.replaceOne ns filter new).2 ns (some document)
        (some (replacement document new)) := by
  cases found : store.findOne ns filter with
  | none =>
    rw [replaceOne, if_neg (not_any_accepts_of_findOne found)]
    exact .inl rfl
  | some document =>
    obtain ⟨accepted, front, back, parts, others⟩ := findOne_eq_some found
    have left : (store.replaceOne ns filter new).2.documents ns =
        front ++ replacement document new :: back := by
      rw [documents_replaceOne, parts, changeFirst_append others, changeFirst, if_pos accepted]
    refine .inr ⟨document, rfl, by rw [replaceOne, if_pos (any_accepts_of_findOne found)],
      ⟨front, back, parts, left⟩, fun other different => ?_⟩
    exact documents_respond_of_ne ⟨.update, .replaceOne ns filter new⟩
      (fun written target => (Option.some.inj target).symm) different ⟨0⟩ store

theorem editMembership_cases (store : Store) (ns : Namespace) (id : String) (membership : Membership)
    (field : String) (element : Bson) :
    (∃ error, store.editMembership ns id membership field element = (.error error, store)) ∨
    ∃ document edited, store.findOne ns (.byId id) = some document ∧
      document.withMembership membership field element = some edited ∧
      (store.editMembership ns id membership field element).1 = .ok () ∧
      store.Patched (store.editMembership ns id membership field element).2 ns (some document)
        (some edited) := by
  cases found : store.findOne ns (.byId id) with
  | none =>
    refine .inl ⟨.notFound ns id, ?_⟩
    simp only [editMembership, found]
  | some document =>
    cases made : document.withMembership membership field element with
    | none =>
      refine .inl ⟨.notAnArray ns id field, ?_⟩
      simp only [editMembership, found, made]
    | some edited =>
      have replied : store.editMembership ns id membership field element =
          (.ok (), store.update ns (changeFirst (.byId id) fun _ => edited)) := by
        simp only [editMembership, found, made]
      obtain ⟨accepted, front, back, parts, others⟩ := findOne_eq_some found
      rw [replied]
      refine .inr ⟨document, edited, rfl, made, rfl, ⟨front, back, parts, ?_⟩,
        fun other different => documents_update_of_ne different store _⟩
      rw [documents_update_self _ _ rfl, parts, changeFirst_append others, changeFirst,
        if_pos accepted]
      rfl

end Store

end Syllabus
