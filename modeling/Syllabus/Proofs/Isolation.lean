/-
**Courses do not see each other.**

Whoever asks about one course gets the responses that there would be if nobody asked about anything else;
and whoever asks about users, those that there would be without any courses.

* `RecordKind.isPartOf`, `Store.SameFor` — the documents that belong to a course; stores with the same ones;
* `SameFor.run`, `SameFor.run_other` — a program that keeps to a course does the same on such stores, and
  one that keeps to another course leaves them such;
* `Store.SameUsers` — stores with the same users; `SameUsers.run`, `SameUsers.run_course`;
* `Incoming.own_course`, `Incoming.other_course` — the same of single requests;
* **`courses_are_isolated`** — two runs, one with all requests and one with some.
-/

import Syllabus.Proofs.Scope

namespace Syllabus

/-! ### The part of a store that belongs to a course -/

/-- The document belongs to the course, if it is in the namespace of the kind there: all courses share
one namespace, in which each has the document with its id. -/
def RecordKind.isPartOf (kind : RecordKind) (c : String) (document : Document) : Bool :=
  kind.isCourseScoped || (Filter.byId c).accepts document

namespace RecordKind

variable {kind : RecordKind} {c : String}

/-- Whoever has a key of the course belongs to it. -/
theorem KeyOf.isPartOf {id : String} (own : kind.KeyOf c id) {document : Document}
    (answers : (Filter.byId id).accepts document = true) : kind.isPartOf c document = true := by
  unfold RecordKind.isPartOf
  cases kind with
  | lesson | content => rfl
  | course => rw [← own.2 rfl, answers, Bool.or_true]
  | user => exact absurd rfl own.1

/-- Belonging to a course is a matter of the key. -/
theorem isPartOf_of_key_eq {old new : Document} (same : new.get? idKey = old.get? idKey) :
    kind.isPartOf c new = kind.isPartOf c old := by
  simp [isPartOf, Filter.accepts, Filter.byId, same]

end RecordKind

namespace Filter

theorem byId_accepts_of_guard {id : String} {previous : Bson} {document : Document}
    (accepted : (guard id previous).accepts document = true) :
    (byId id).accepts document = true := by
  by_contra stranger
  rw [Store.guard_unmet (Bool.eq_false_iff.mpr stranger)] at accepted
  cases accepted

end Filter

/-- What answers to a key keeps its own when it is replaced. -/
theorem Store.get?_replacement {id : String} {old : Document}
    (answers : (Filter.byId id).accepts old = true) (new : Document) :
    (replacement old new).get? idKey = old.get? idKey := by
  unfold replacement
  split
  · next key keyed => rw [keyed, Document.get?_insert_self]
  · next missing => simp [Filter.accepts, Filter.byId, Condition.holds, missing, valueMatches] at answers

namespace Request.OfCourse

variable {c : String} {request : Request}

/-- A request on a course heeds what belongs to it, in one namespace. -/
theorem heeds (ofCourse : request.OfCourse c) :
    ∃ kind : RecordKind, kind ≠ .user ∧ request.Heeds (kind.home c) (kind.isPartOf c) := by
  cases ofCourse with
  | findOne kind id own => exact ⟨kind, own.1, .findOne _ fun _ => own.isPartOf⟩
  | count kind id own => exact ⟨kind, own.1, .count _ fun _ => own.isPartOf⟩
  | listAll kind belongs =>
    refine ⟨kind, ?_, .listAll fun document => ?_⟩
    · rintro rfl
      cases belongs
    · rw [RecordKind.isPartOf, belongs, Bool.true_or]
  | insertOne kind record own placed =>
    have keyed : ∀ spare, Store.keyed spare (Records.stored (Record.id record) 1 record) =
        (.string (Record.id record), Records.stored (Record.id record) 1 record) := by
      intro spare
      rw [Store.keyed, Records.get?_stored_id]
    refine ⟨kind, own.1, .insertOne _ (fun spare => ?_) fun spare other clashes => ?_⟩
    · rw [keyed]
      exact own.isPartOf (by simp)
    · rw [keyed] at clashes
      exact own.isPartOf (Store.byId_accepts_of_holdsKey clashes)
  | replaceOne kind previous version record own placed =>
    have answers : ∀ old, (Filter.guard (Record.id record) previous).accepts old = true →
        (Filter.byId (Record.id record)).accepts old = true :=
      fun old => Filter.byId_accepts_of_guard
    refine ⟨kind, own.1, .replaceOne _ _ (fun old accepted => own.isPartOf (answers old accepted)) ?_⟩
    intro old accepted
    rw [RecordKind.isPartOf_of_key_eq (Store.get?_replacement (answers old accepted) _)]
    exact own.isPartOf (answers old accepted)
  | deleteOne kind id own => exact ⟨kind, own.1, .deleteOne _ fun _ => own.isPartOf⟩
  | editMembership kind listing id membership child own =>
    refine ⟨kind, own.1, .editMembership id membership _ _ (fun _ => own.isPartOf) ?_⟩
    intro document edited answers made
    have apart : idKey ≠ listing.field := by cases listing <;> decide
    rw [RecordKind.isPartOf_of_key_eq (Document.get?_withMembership apart (by decide) made)]
    exact own.isPartOf answers

/-- On a regular store it adds, removes or replaces a document that stands for a record of the course, or
leaves the store. -/
theorem patches (ofCourse : request.OfCourse c) {store : Store} (regular : store.Regular)
    (spare : ObjectId) :
    (store.perform spare request).2 = store ∨
    ∃ (kind : RecordKind) (before after : Option Document), kind ≠ .user ∧
      store.Patched (store.perform spare request).2 (kind.home c) before after ∧
      ∀ document, before = some document ∨ after = some document →
        ∃ record : kind.Carrier, document.Represents c record ∧ kind.KeyOf c (Record.id record) := by
  cases ofCourse with
  | findOne | count | listAll => exact .inl rfl
  | insertOne kind record own placed =>
    rcases store.insertOne_cases spare (kind.home c) (Records.get?_stored_id (Record.id record) 1 record)
      with ⟨error, refused⟩ | ⟨_, patched⟩
    · exact .inl (congrArg Prod.snd refused)
    · refine .inr ⟨kind, _, _, own.1, patched, ?_⟩
      rintro document (none | put)
      · cases none
      · cases put
        exact ⟨record, .of_stored placed 1, own⟩
  | replaceOne kind previous version record own placed =>
    rcases store.replaceOne_cases (kind.home c) (.guard (Record.id record) previous)
      (Records.stored (Record.id record) version record) with missed | ⟨old, found, _, patched⟩
    · exact .inl (congrArg Prod.snd missed)
    · obtain ⟨replaced, represented⟩ :=
        regular kind own.1 c old (List.mem_of_find?_eq_some found)
      have named := represented.id_eq_of_guard (List.find?_some found)
      rw [Records.replacement_stored (named ▸ represented.keyed)] at patched
      refine .inr ⟨kind, _, _, own.1, patched, ?_⟩
      rintro document (was | put)
      · cases was
        exact ⟨replaced, represented, named ▸ own⟩
      · cases put
        exact ⟨record, .of_stored placed version, own⟩
  | deleteOne kind id own =>
    rcases store.deleteOne_cases (kind.home c) (.byId id) with missed | ⟨old, found, _, patched⟩
    · exact .inl (congrArg Prod.snd missed)
    · obtain ⟨removed, represented, named⟩ := regular.of_findOne own.1 found
      refine .inr ⟨kind, _, _, own.1, patched, ?_⟩
      rintro document (was | none)
      · cases was
        exact ⟨removed, represented, named ▸ own⟩
      · cases none
  | editMembership kind listing id membership child own =>
    rcases store.editMembership_cases (kind.home c) id membership listing.field (.string child) with
      ⟨error, refused⟩ | ⟨old, new, found, made, _, patched⟩
    · exact .inl (congrArg Prod.snd refused)
    · obtain ⟨record, represented, named⟩ := regular.of_findOne own.1 found
      refine .inr ⟨kind, _, _, own.1, patched, ?_⟩
      rintro document (was | put)
      · cases was
        exact ⟨record, represented, named ▸ own⟩
      · cases put
        obtain ⟨ids, edited, _⟩ := represented.edited listing made
        exact ⟨_, edited, by rwa [listing.id_withMembers, named]⟩

end Request.OfCourse

namespace Store

variable {c d : String} {old new store next : Store} {request : Request}

/-- What is found under a key of a regular store is as expected. -/
theorem Regular.expects (regular : store.Regular) (spare : ObjectId) (request : Request) :
    request.Expects c (store.perform spare request).1 := by
  cases request with
  | findOne ns filter =>
    show Request.Expects c (.findOne ns filter) (.ok (store.findOne ns filter))
    cases found : store.findOne ns filter with
    | none => trivial
    | some document =>
      rintro kind id someone rfl rfl
      exact regular.of_findOne someone found
  | insertOne | replaceOne | deleteOne | count | listAll | editMembership | ping =>
    unfold Request.Expects
    trivial

theorem Regular.perform (regular : store.Regular) (ofCourse : request.OfCourse c) (spare : ObjectId) :
    (store.perform spare request).2.Regular := by
  rcases ofCourse.patches regular spare with same | ⟨kind, before, after, _, patched, stands⟩
  · rwa [same]
  · refine patched.regular regular fun document put => ?_
    obtain ⟨record, represents, _⟩ := stands document (.inr put)
    exact ⟨record, represents⟩

/-- What belongs to a course is not touched where a document of another one is written. -/
theorem Patched.view_eq {kind other : RecordKind} {before after : Option Document}
    (patched : store.Patched next (kind.home d) before after)
    (stands : ∀ document, before = some document ∨ after = some document →
      ∃ record : kind.Carrier, document.Represents d record ∧ kind.KeyOf d (Record.id record))
    (different : d ≠ c) :
    next.view (other.home c) (other.isPartOf c) = store.view (other.home c) (other.isPartOf c) := by
  by_cases here : other.home c = kind.home d
  · cases RecordKind.eq_of_home_eq here
    have stranger : ∀ document, before = some document ∨ after = some document →
        kind.isPartOf c document = false := by
      intro document there
      obtain ⟨record, represents, own⟩ := stands document there
      cases kind with
      | lesson | content => exact absurd (congrArg Namespace.database here).symm different
      | user => exact absurd rfl own.1
      | course =>
        show (Filter.byId c).accepts document = false
        rw [represents.answers, own.2 rfl]
        simpa using different
    have none_seen : ∀ part : Option Document,
        (∀ document, part = some document → kind.isPartOf c document = false) →
        part.toList.filter (kind.isPartOf c) = [] := by
      intro part unseen
      cases part with
      | none => rfl
      | some document => simp [unseen document rfl]
    obtain ⟨front, back, held, left⟩ := patched.here
    rw [view, view, here, held, left]
    simp only [List.filter_append]
    rw [none_seen before fun document was => stranger document (.inl was),
      none_seen after fun document put => stranger document (.inr put)]
  · exact view_of_documents_eq _ (patched.elsewhere _ here)

/-- Two regular stores have the same course, with the same lessons and contents. -/
structure SameFor (c : String) (old new : Store) : Prop where
  regular : old.Regular
  regular' : new.Regular
  view : ∀ kind : RecordKind, kind ≠ .user →
    old.view (kind.home c) (kind.isPartOf c) = new.view (kind.home c) (kind.isPartOf c)

theorem SameFor.refl (regular : store.Regular) (c : String) : store.SameFor c store :=
  ⟨regular, regular, fun _ _ => rfl⟩

/-- The lessons and contents are then the same, as documents. -/
theorem SameFor.documents (same : old.SameFor c new) (kind : RecordKind)
    (belongs : kind.isCourseScoped = true) (someone : kind ≠ .user) :
    old.documents (kind.home c) = new.documents (kind.home c) := by
  have whole : ∀ store : Store,
      store.view (kind.home c) (kind.isPartOf c) = store.documents (kind.home c) :=
    fun store => List.filter_eq_self.mpr fun _ _ => by
      rw [RecordKind.isPartOf, belongs, Bool.true_or]
  rw [← whole, ← whole, same.view kind someone]

/-- So is the course. -/
theorem SameFor.findOne (same : old.SameFor c new) :
    old.findOne coursesAt (.byId c) = new.findOne coursesAt (.byId c) := by
  have told : ∀ store : Store, store.findOne coursesAt (.byId c) =
      (store.view coursesAt (RecordKind.course.isPartOf c)).find? (Filter.byId c).accepts :=
    fun store => (find?_filter_of_covered (fun _ => (Course.keyOf c).isPartOf) _).symm
  rw [told, told]
  exact congrArg _ (same.view .course nofun)

/-- A request on the course is answered alike, and the stores are the same for it again. -/
theorem SameFor.perform (same : old.SameFor c new) (ofCourse : request.OfCourse c)
    (spare : ObjectId) :
    (old.perform spare request).1 = (new.perform spare request).1 ∧
      (old.perform spare request).2.SameFor c (new.perform spare request).2 := by
  obtain ⟨kind, someone, heeds⟩ := ofCourse.heeds
  obtain ⟨answer, here⟩ := perform_view heeds (same.view kind someone) spare
  refine ⟨answer, same.regular.perform ofCourse spare, same.regular'.perform ofCourse spare,
    fun other noUser => ?_⟩
  by_cases this : other = kind
  · rw [this]
    exact here
  · have elsewhere : ∀ store : Store,
        (store.perform spare request).2.documents (other.home c) = store.documents (other.home c) := by
      intro store
      refine documents_perform_of_ne (fun target => this ?_) spare store
      exact RecordKind.eq_of_home_eq (heeds.target target)
    rw [view_of_documents_eq _ (elsewhere old), view_of_documents_eq _ (elsewhere new)]
    exact same.view other noUser

/-- A request on another course leaves a store the same for this one. -/
theorem SameFor.perform_other (same : old.SameFor c new) (ofCourse : request.OfCourse d)
    (different : d ≠ c) (spare : ObjectId) : (old.perform spare request).2.SameFor c new := by
  refine ⟨same.regular.perform ofCourse spare, same.regular', fun other noUser => ?_⟩
  rw [← same.view other noUser]
  rcases ofCourse.patches same.regular spare with left | ⟨kind, before, after, _, patched, stands⟩
  · rw [left]
  · exact patched.view_eq stands different

theorem home_ne_usersAt {kind : RecordKind} (someone : kind ≠ .user) (d : String) :
    kind.home d ≠ usersAt := by
  intro here
  have homes : kind.home d = RecordKind.user.home d := here
  exact someone (RecordKind.eq_of_home_eq homes)

theorem Regular.of_users (regular : old.Regular)
    (elsewhere : ∀ ns, ns ≠ usersAt → next.documents ns = old.documents ns) : next.Regular := by
  intro kind someone d document member
  rw [elsewhere _ (home_ne_usersAt someone d)] at member
  exact regular kind someone d document member

/-- What is written to the users leaves a store the same for a course. -/
theorem SameFor.of_users (same : old.SameFor c new)
    (elsewhere : ∀ ns, ns ≠ usersAt → next.documents ns = old.documents ns) : next.SameFor c new := by
  refine ⟨same.regular.of_users elsewhere, same.regular', fun kind someone => ?_⟩
  rw [← same.view kind someone]
  exact view_of_documents_eq _ (elsewhere _ (home_ne_usersAt someone c))

/-- Two stores, of which the first is regular, have the same users. -/
structure SameUsers (old new : Store) : Prop where
  regular : old.Regular
  users : old.documents usersAt = new.documents usersAt

/-- A call at the users is answered alike, and the stores have the same users again. -/
theorem SameUsers.answer (same : old.SameUsers new) {call : Call} (there : call.At usersAt)
    (spare : ObjectId) :
    (old.respond spare call).1 = (new.respond spare call).1 ∧
      (old.respond spare call).2.SameUsers (new.respond spare call).2 := by
  have whole : ∀ store : Store, (store.view usersAt fun _ => true) = store.documents usersAt :=
    fun store => List.filter_true _
  have views : (old.view usersAt fun _ => true) = new.view usersAt fun _ => true := by
    rw [whole, whole, same.users]
  obtain ⟨answer, left⟩ := perform_view there.heeds views spare
  rw [whole, whole] at left
  refine ⟨answer, same.regular.of_users fun ns elsewhere => ?_, left⟩
  exact documents_respond_of_ne call there.within elsewhere spare old

/-- A request on a course leaves the users. -/
theorem SameUsers.perform_course (same : old.SameUsers new) (ofCourse : request.OfCourse d)
    (spare : ObjectId) : (old.perform spare request).2.SameUsers new := by
  obtain ⟨kind, someone, heeds⟩ := ofCourse.heeds
  refine ⟨same.regular.perform ofCourse spare, ?_⟩
  rw [← same.users]
  exact documents_perform_of_ne
    (fun target => home_ne_usersAt someone d (heeds.target target).symm) spare old

section Runs

variable {ε α : Type} {ends : α → Prop} {program : StoreProgram ε α} {spare : ObjectId}

/-- A program that keeps to the course does the same on stores that are the same for it. -/
theorem SameFor.run (same : old.SameFor c new) (within : StaysWithin c ends program) :
    (program.run (respond spare) old).1 = (program.run (respond spare) new).1 ∧
      (program.run (respond spare) old).2.SameFor c (program.run (respond spare) new).2 := by
  refine within.run_agrees (fun call old new ofCourse same => ?_) same
  obtain ⟨answer, left⟩ := same.perform ofCourse spare
  exact ⟨answer, same.regular.expects spare call.request, left⟩

/-- A program that keeps to another course leaves a store the same for this one. -/
theorem SameFor.run_other (same : old.SameFor c new) (within : StaysWithin d ends program)
    (different : d ≠ c) : (program.run (respond spare) old).2.SameFor c new := by
  have keeps : Program.Preserves (respond spare) (SameFor c · new) program :=
    within.preserves fun call store ofCourse same =>
      ⟨same.regular.expects spare call.request, same.perform_other ofCourse different spare⟩
  exact keeps old same

/-- A program that is at the users leaves a store the same for a course. -/
theorem SameFor.run_users (same : old.SameFor c new) (there : program.Asks (Call.At usersAt)) :
    (program.run (respond spare) old).2.SameFor c new := by
  have keeps : Program.Preserves (respond spare) (SameFor c · new) program :=
    there.preserves fun call store there same => same.of_users fun ns elsewhere =>
      documents_respond_of_ne call there.within elsewhere spare store
  exact keeps old same

/-- A program that is at the users does the same on stores with the same users. -/
theorem SameUsers.run (same : old.SameUsers new) (there : program.Asks (Call.At usersAt)) :
    (program.run (respond spare) old).1 = (program.run (respond spare) new).1 ∧
      (program.run (respond spare) old).2.SameUsers (program.run (respond spare) new).2 := by
  refine (Program.Confined.of_asks there).run_agrees (fun call old new there same => ?_) same
  obtain ⟨answer, left⟩ := same.answer there spare
  exact ⟨answer, trivial, left⟩

/-- A program that keeps to a course leaves the users. -/
theorem SameUsers.run_course (same : old.SameUsers new) (within : StaysWithin d ends program) :
    (program.run (respond spare) old).2.SameUsers new := by
  have keeps : Program.Preserves (respond spare) (SameUsers · new) program :=
    within.preserves fun call store ofCourse same =>
      ⟨same.regular.expects spare call.request, same.perform_course ofCourse spare⟩
  exact keeps old same

end Runs

end Store

/-! ### Requests -/

namespace Incoming

variable {incoming : Incoming} {c : String} {old new : Store}

/-- A request to the course is answered alike by stores that are the same for it. -/
theorem own_course (mine : incoming.course? = some c) (same : old.SameFor c new) :
    incoming.response old = incoming.response new ∧
      (incoming.leaves old).SameFor c (incoming.leaves new) := by
  unfold response leaves
  rcases incoming.handled_or_refused with ⟨verb, route, program, handled⟩ | ⟨response, refused⟩
  · rw [handled.answer_eq, handled.answer_eq]
    rcases handled.scope with ⟨d, theirs, _, within⟩ | ⟨none, _⟩ | ⟨none, _⟩
    · cases mine.symm.trans theirs
      obtain ⟨outcome, left⟩ := same.run within
      exact ⟨by rw [outcome], left⟩
    · rw [mine] at none
      cases none
    · rw [mine] at none
      cases none
  · rw [refused.answer, refused.answer]
    exact ⟨rfl, same⟩

/-- Any other request leaves a store the same for the course. -/
theorem other_course (theirs : incoming.course? ≠ some c) (same : old.SameFor c new) :
    (incoming.leaves old).SameFor c new := by
  unfold leaves
  rcases incoming.handled_or_refused with ⟨verb, route, program, handled⟩ | ⟨response, refused⟩
  · rw [handled.answer_eq]
    rcases handled.scope with ⟨d, named, _, within⟩ | ⟨_, _, users⟩ | ⟨_, _, reads⟩
    · exact same.run_other within fun this => theirs (this ▸ named)
    · exact same.run_users users
    · rwa [reads.run_reads]
  · rw [refused.answer]
    exact same

/-- A request to the users is answered alike by stores with the same users. -/
theorem own_users (mine : incoming.area? = some "user") (same : old.SameUsers new) :
    incoming.response old = incoming.response new ∧
      (incoming.leaves old).SameUsers (incoming.leaves new) := by
  unfold response leaves
  rcases incoming.handled_or_refused with ⟨verb, route, program, handled⟩ | ⟨response, refused⟩
  · rw [handled.answer_eq, handled.answer_eq]
    rcases handled.scope with ⟨_, _, course, _⟩ | ⟨_, _, users⟩ | ⟨_, elsewhere, _⟩
    · rw [mine] at course
      exact absurd course (by decide)
    · obtain ⟨outcome, left⟩ := same.run users
      exact ⟨by rw [outcome], left⟩
    · exact absurd mine elsewhere
  · rw [refused.answer, refused.answer]
    exact ⟨rfl, same⟩

/-- Any other request leaves the users. -/
theorem other_users (theirs : incoming.area? ≠ some "user") (same : old.SameUsers new) :
    (incoming.leaves old).SameUsers new := by
  unfold leaves
  rcases incoming.handled_or_refused with ⟨verb, route, program, handled⟩ | ⟨response, refused⟩
  · rw [handled.answer_eq]
    rcases handled.scope with ⟨_, _, _, within⟩ | ⟨_, users, _⟩ | ⟨_, _, reads⟩
    · exact same.run_course within
    · exact absurd users theirs
    · rwa [reads.run_reads]
  · rw [refused.answer]
    exact same

end Incoming

/-! ### Any number of requests -/

theorem Store.regular_empty : Store.empty.Regular :=
  fun _ _ _ _ member => by cases member

/-- The users do not notice which other requests there are. -/
theorem exchanges_users (traffic : List Incoming) :
    let users := fun incoming : Incoming => decide (incoming.area? = some "user")
    (Store.empty.exchanges traffic).filter (users ·.1) =
      Store.empty.exchanges (traffic.filter users) :=
  (Store.exchanges_filter
    (fun _ _ _ mine => Incoming.own_users (of_decide_eq_true mine))
    (fun _ _ _ theirs => Incoming.other_users (of_decide_eq_false theirs))
    ⟨Store.regular_empty, rfl⟩ traffic).1

/-- **Courses are isolated.** Take any requests, one after another, on a store that was empty at first, and
leave out all that are not addressed to a course: the others get the responses that they got, and in the
end the course and the documents of its lessons and contents are the same. Leave out all that are on
courses: those to users get the responses that they got. -/
theorem courses_are_isolated (traffic : List Incoming) :
    (∀ c,
      let mine := fun incoming : Incoming => decide (incoming.course? = some c)
      let whole := Store.empty.after traffic
      let alone := Store.empty.after (traffic.filter mine)
      (Store.empty.exchanges traffic).filter (mine ·.1) =
          Store.empty.exchanges (traffic.filter mine) ∧
        whole.documents (lessonsAt c) = alone.documents (lessonsAt c) ∧
        whole.documents (contentsAt c) = alone.documents (contentsAt c) ∧
        whole.findOne coursesAt (.byId c) = alone.findOne coursesAt (.byId c)) ∧
    (let onUsers := fun incoming : Incoming => decide (incoming.area? = some "user")
      let offCourses := fun incoming : Incoming => decide (incoming.area? ≠ some "course")
      (Store.empty.exchanges traffic).filter (onUsers ·.1) =
        (Store.empty.exchanges (traffic.filter offCourses)).filter (onUsers ·.1)) := by
  refine ⟨fun c => ?_, ?_⟩
  · intro mine whole alone
    obtain ⟨responses, same⟩ := Store.exchanges_filter
      (fun _ _ _ mine => Incoming.own_course (c := c) (of_decide_eq_true mine))
      (fun _ _ _ theirs => Incoming.other_course (of_decide_eq_false theirs))
      (Store.SameFor.refl Store.regular_empty c) traffic
    exact ⟨responses, same.documents .lesson rfl nofun, same.documents .content rfl nofun,
      same.findOne⟩
  · intro onUsers offCourses
    rw [exchanges_users, exchanges_users, List.filter_filter]
    congr 1
    refine List.filter_congr fun incoming _ => ?_
    by_cases users : incoming.area? = some "user" <;> simp [offCourses, users]

end Syllabus
