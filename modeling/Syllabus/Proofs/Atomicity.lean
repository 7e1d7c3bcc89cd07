/-
**Workflows that are cut short.**

A workflow that writes a child and then edits the list of its parent makes two writes, and calls can fail
before, between and after them. However they fail, an error tells what was done: nothing, or the child's
write alone, in which case it names child, parent and the edit that is missing.

* `Bond.Adopted`, `Bond.Dropped`, `Bond.Followed` — the child was stored, or removed; the list of its
  parent was edited; and nothing else was changed;
* `Bond.Paired` — how a workflow with two writes may end; `Store.Single` — one with one write;
* `Store.FailsAtomically` — how all workflows of courses, lessons and contents may end;
* **`fails_atomically`** — they end so on every regular store, however their calls fail.
-/

import Syllabus.Proofs.Outage

namespace Syllabus

namespace Bond

/-- The kind and the key of the parent, as an error names it. -/
def parentText (bond : Bond) : String :=
  bond.parentKind.text ++ " '" ++ bond.parent ++ "'"

/-- The child was stored as this record, and nothing else was changed. -/
def Adopted (bond : Bond) (record : bond.childKind.Carrier) (old next : Store) : Prop :=
  Record.id record = bond.child ∧ bond.Takes record ∧
    old.Patched next bond.childNs none (some (Records.stored bond.child 1 record))

/-- The document found under the key of the child was removed, and nothing else was changed. -/
def Dropped (bond : Bond) (old next : Store) : Prop :=
  ∃ document, ∃ record : bond.childKind.Carrier,
    old.findOne bond.childNs (.byId bond.child) = some document ∧
    document.Represents bond.course record ∧ bond.Takes record ∧
    old.Patched next bond.childNs (some document) none

/-- The list was edited in the document found under the key of the parent, and nothing else was
changed. The parent's record has its list edited, too, unless others have stored ids on it as bytes: such
an id is read as a text, and a removal does not take it off. -/
def Followed (bond : Bond) (membership : Membership) (old next : Store) : Prop :=
  ∃ before after, ∃ record : bond.parentKind.Carrier, ∃ ids,
    old.findOne bond.parentNs (.byId bond.parent) = some before ∧
    before.withMembership membership bond.listing.field (.string bond.child) = some after ∧
    before.Represents bond.course record ∧
    after.Represents bond.course (bond.listing.withMembers ids record) ∧
    (membership = .push ∨ bond.listing.StoresTexts before →
      ids = membership.edited bond.child (bond.listing.members record)) ∧
    old.Patched next bond.parentNs (some before) (some after)

/-- How a workflow may end that writes the child and then edits the list of its parent. If it returns,
both was done. If the list did not follow, just the child was written, and the error tells which edit of
whose list is missing. After any other error the store is as it was. -/
def Paired {α : Type} (bond : Bond) (membership : Membership) (wrote : Store → Store → Prop)
    (store : Store) : Except CurriculumError α → Store → Prop
  | .ok _, next => ∃ middle, wrote store middle ∧ bond.Followed membership middle next
  | .error (.partialSync action child parent _), next =>
    (action = membership.text ∧ child = bond.child ∧ parent = bond.parentText) ∧ wrote store next ∧
      next.documents bond.parentNs = store.documents bond.parentNs
  | .error _, next => next = store

theorem parentNs_ne_childNs (bond : Bond) : bond.parentNs ≠ bond.childNs := by
  intro same
  cases bond <;> cases RecordKind.eq_of_home_eq same

end Bond

/-- How a workflow may end that makes one write. No list has to follow it. -/
def Store.Single {α : Type} (store : Store) (wrote : α → Store → Prop) :
    Except CurriculumError α → Store → Prop
  | .ok value, next => wrote value next
  | .error (.partialSync _ _ _ _), _ => False
  | .error _, next => next = store

/-- The document of a record was written anew, and nothing else was changed. -/
def Store.Updated (old : Store) (kind : RecordKind) (c id : String) (record : kind.Carrier)
    (next : Store) : Prop :=
  ∃ before after, ∃ replaced : kind.Carrier, before.Represents c replaced ∧
    Record.id replaced = id ∧ after.Represents c record ∧ Record.id record = id ∧
    old.Patched next (kind.home c) (some before) (some after)

open Program (Leads)

namespace Curriculum

variable {spare : ObjectId} {store : Store}

/-! ### Parts of a workflow -/

/-- What follows an operation on records that did all or nothing. -/
theorem leads_bind_records {α β : Type} {program : StoreProgram StoreError α}
    {next : α → StoreProgram CurriculumError β} {after : α → Store → Prop}
    {ends : Except CurriculumError β → Store → Prop}
    (first : Leads spare store program (store.AllOrNothing after))
    (rest : ∀ value reached, after value reached → Leads spare reached (next value) ends)
    (lost : ∀ error, ends (.error (.store error)) store) :
    Leads spare store (records program >>= next) ends := by
  have mapped : Leads spare store (records program) fun result reached => match result with
      | .ok value => after value reached
      | .error error => (∃ cause, error = .store cause) ∧ reached = store := by
    refine .mapError (first.mono fun result reached there => ?_)
    cases result with
    | ok value => exact there
    | error cause => exact ⟨⟨cause, rfl⟩, there⟩
  refine mapped.bind rest fun error reached ⟨⟨cause, is⟩, same⟩ => ?_
  rw [is, same]
  exact lost cause

/-- An operation on records that did all or nothing, as the whole of a workflow. -/
theorem leads_records {α : Type} {program : StoreProgram StoreError α} {after : α → Store → Prop}
    (leads : Leads spare store program (store.AllOrNothing after)) :
    Leads spare store (records program) (store.Single after) := by
  refine .mapError (leads.mono fun result reached there => ?_)
  cases result <;> exact there

/-- Whoever still has children is left alone. -/
theorem leads_bind_ensureEmpty {β : Type} {kind : RecordKind} {id field : String}
    {children : List String} {next : StoreProgram CurriculumError β}
    {ends : Except CurriculumError β → Store → Prop} (rest : Leads spare store next ends)
    (lost : ∀ kind id field remaining, ends (.error (.notEmpty kind id field remaining)) store) :
    Leads spare store (ensureEmpty kind id field children >>= fun _ => next) ends := by
  unfold ensureEmpty
  split
  · exact rest
  · exact .fail (lost ..)

/-- Once the child was written, the list of its parent follows, or the error tells that it did not. -/
theorem leads_syncParent (bond : Bond) {parent : bond.parentKind.Carrier} {middle : Store}
    (placed : Record.place parent = .ok bond.parentNs) (named : Record.id parent = bond.parent)
    (membership : Membership) (regular : middle.Regular) {wrote : Store → Store → Prop}
    (written : wrote store middle)
    (same : middle.documents bond.parentNs = store.documents bond.parentNs) :
    Leads spare middle (syncParent parent membership bond.listing.field bond.child)
      (bond.Paired membership wrote store) := by
  refine .mapError ((Records.leads_sync regular bond.parentKind_ne_user placed bond.listing membership
    bond.child).mono fun result next there => ?_)
  cases result with
  | ok done =>
    obtain ⟨before, after, record, ids, found, followed⟩ := there
    rw [named] at found
    exact ⟨middle, written, before, after, record, ids, found, followed⟩
  | error cause =>
    cases there
    refine ⟨⟨rfl, rfl, ?_⟩, written, same⟩
    rw [named]
    cases bond <;> rfl

/-- The creation of a child, once its parent was found: it is stored, and then listed. -/
theorem leads_adopt {α : Type} (bond : Bond) (record : bond.childKind.Carrier)
    {parent : bond.parentKind.Carrier} (there : Record.place parent = .ok bond.parentNs)
    (named : Record.id parent = bond.parent) (regular : store.Regular)
    (placed : ∀ ns, Record.place record = .ok ns → ns = bond.childNs)
    (keyed : Record.id record = bond.child) (takes : bond.Takes record) (value : α) :
    Leads spare store (records (Records.checkUnique record) >>= fun _ =>
      records (Records.create record) >>= fun _ =>
        syncParent parent .push bond.listing.field bond.child >>= fun _ => .done value)
      (bond.Paired .push (bond.Adopted record) store) := by
  refine leads_bind_records (Records.leads_checkUnique record) (fun _ reached same => ?_) fun _ => rfl
  rw [same]
  refine leads_bind_records (Records.leads_create bond.childKind placed) (fun _ middle ⟨place, patched⟩ => ?_)
    fun _ => rfl
  have represented := Document.Represents.of_stored place 1
  rw [keyed] at patched represented
  have regular : middle.Regular := patched.regular regular fun document put =>
    ⟨record, Option.some.inj put ▸ represented⟩
  refine (leads_syncParent bond there named .push regular ⟨keyed, takes, patched⟩
    (patched.elsewhere _ bond.parentNs_ne_childNs)).bind (fun _ _ followed => .done followed) ?_
  intro error next ended
  cases error <;> exact ended

/-- The deletion of a child that was found: its document is removed, and then it is taken off the
list. -/
theorem leads_drop (bond : Bond) {parent : bond.parentKind.Carrier}
    {record : bond.childKind.Carrier} (there : Record.place parent = .ok bond.parentNs)
    (named : Record.id parent = bond.parent) (regular : store.Regular)
    (placed : ∀ ns, Record.place record = .ok ns → ns = bond.childNs)
    (keyed : Record.id record = bond.child) (takes : bond.Takes record) {document : Document}
    (found : store.findOne bond.childNs (.byId bond.child) = some document)
    (represents : document.Represents bond.course record) :
    Leads spare store (records (Records.delete record) >>= fun _ =>
        syncParent parent .pull bond.listing.field bond.child)
      (bond.Paired .pull bond.Dropped store) := by
  refine leads_bind_records (Records.leads_delete bond.childKind placed)
    (fun _ middle ⟨removed, first, patched⟩ => ?_) fun _ => rfl
  rw [keyed] at first
  cases found.symm.trans first
  exact leads_syncParent bond there named .pull (patched.regular regular nofun)
    ⟨document, record, found, represents, takes, patched⟩
    (patched.elsewhere _ bond.parentNs_ne_childNs)

/-! ### The workflows -/

theorem leads_createCourse (now : Instant) (course : Course) :
    Leads spare store (createCourse now course) (store.Single fun created next =>
      created = { course with lessons := [], createdAt := some now } ∧
      store.Patched next coursesAt none (some (Records.stored created.courseId 1 created))) := by
  have usable : Leads spare store
      (Program.ofExcept (checkDatabaseName course.courseId) : StoreProgram StoreError Unit)
      (store.AllOrNothing fun _ next => next = store) := by
    unfold checkDatabaseName
    split
    · exact .done rfl
    · exact .fail rfl
  refine leads_bind_records usable (fun _ reached same => ?_) fun _ => rfl
  rw [same]
  refine leads_bind_records (Records.leads_checkUnique _) (fun _ reached same => ?_) fun _ => rfl
  rw [same]
  exact leads_bind_records (Records.leads_create .course (c := "") fun _ => Course.place_eq)
    (fun _ next ⟨_, patched⟩ => .done ⟨rfl, patched⟩) fun _ => rfl

variable (regular : store.Regular)

include regular

theorem leads_deleteCourse (courseId : String) :
    Leads spare store (deleteCourse courseId) (store.Single fun _ next => ∃ document,
      store.findOne coursesAt (.byId courseId) = some document ∧
      store.Patched next coursesAt (some document) none) := by
  refine leads_bind_records (Records.leads_get .course (c := courseId) (fun _ => Course.place_eq)
    regular nofun) (fun course reached ⟨same, _, named, _⟩ => ?_) fun _ => rfl
  rw [same]
  refine leads_bind_ensureEmpty (leads_records ?_) fun _ _ _ _ => rfl
  have key : courseId = Record.id course := named.symm
  rw [key]
  exact Records.leads_delete .course (c := courseId) fun _ => Course.place_eq

theorem leads_createLesson (lesson : Lesson) :
    Leads spare store (createLesson lesson)
      ((Bond.lesson lesson.courseRef lesson.lessonId).Paired .push
        (Bond.Adopted (.lesson lesson.courseRef lesson.lessonId)
          ({ lesson with contents := [] } : Lesson)) store) := by
  refine leads_bind_records (Records.leads_get .course (c := lesson.courseRef)
    (fun _ => Course.place_eq) regular nofun) (fun course reached ⟨same, _, named, _⟩ => ?_) fun _ => rfl
  rw [same]
  exact leads_adopt (.lesson lesson.courseRef lesson.lessonId)
    ({ lesson with contents := [] } : Lesson) rfl named regular (fun _ => Lesson.place_eq) rfl trivial _

theorem leads_deleteLesson (courseRef lessonId : String) :
    Leads spare store (deleteLesson courseRef lessonId)
      ((Bond.lesson courseRef lessonId).Paired .pull (Bond.Dropped (.lesson courseRef lessonId))
        store) := by
  refine leads_bind_records (Records.leads_get .lesson (c := courseRef) (fun _ => Lesson.place_eq)
    regular nofun) (fun lesson reached ⟨same, placed, named, document, found, represents⟩ => ?_)
    fun _ => rfl
  rw [same]
  refine leads_bind_ensureEmpty ?_ fun _ _ _ _ => rfl
  exact leads_drop (.lesson courseRef lessonId) rfl rfl regular
    (fun ns place => Except.ok.inj (place.symm.trans (represents.place_of_place placed))) named trivial
    found represents

theorem leads_createContent (content : Content) :
    Leads spare store (createContent content)
      ((Bond.content content.courseRef content.lessonRef content.contentId).Paired .push
        (Bond.Adopted (.content content.courseRef content.lessonRef content.contentId) content)
        store) := by
  refine leads_bind_records (Records.leads_get .lesson (c := content.courseRef)
    (fun _ => Lesson.place_eq) regular nofun)
    (fun lesson reached ⟨same, placed, named, document, found, represents⟩ => ?_) fun _ => rfl
  rw [same]
  exact leads_adopt (.content content.courseRef content.lessonRef content.contentId) content
    (represents.place_of_place placed) named regular (fun _ => Content.place_eq) rfl rfl _

/-- Which lesson is to follow is only known once the content was read. -/
theorem leads_deleteContent (courseRef contentId : String) :
    Leads spare store (deleteContent courseRef contentId) fun result next => ∃ lessonRef,
      (Bond.content courseRef lessonRef contentId).Paired .pull
        (Bond.Dropped (.content courseRef lessonRef contentId)) store result next := by
  refine leads_bind_records (Records.leads_get .content (c := courseRef) (fun _ => Content.place_eq)
    regular nofun) (fun content reached ⟨same, placed, named, document, found, represents⟩ => ?_)
    fun _ => ⟨"", rfl⟩
  rw [same]
  have here := represents.place_of_place placed
  refine (leads_drop (.content courseRef (Content.lessonRef content) contentId)
    (Lesson.place_of_usable (Content.usable_of_place here)) rfl regular
    (fun ns place => Except.ok.inj (place.symm.trans here)) named rfl found represents).mono ?_
  exact fun result next ended => ⟨_, ended⟩

end Curriculum

/-- How the workflows may end on a store, however their calls fail. A creation or deletion of a lesson
or content does both of its writes, or the first alone and says so, or none; the others do their one
write or none. -/
structure Store.FailsAtomically (store : Store) : Prop where
  createCourse : ∀ spare now course, Leads spare store (Curriculum.createCourse now course)
    (store.Single fun created next =>
      created = { course with lessons := [], createdAt := some now } ∧
      store.Patched next coursesAt none (some (Records.stored created.courseId 1 created)))
  updateCourse : ∀ spare change, Leads spare store (Curriculum.updateCourse change)
    (store.Single (store.Updated .course change.courseId change.courseId))
  deleteCourse : ∀ spare courseId, Leads spare store (Curriculum.deleteCourse courseId)
    (store.Single fun _ next => ∃ document,
      store.findOne coursesAt (.byId courseId) = some document ∧
      store.Patched next coursesAt (some document) none)
  createLesson : ∀ spare (lesson : Lesson), Leads spare store (Curriculum.createLesson lesson)
    ((Bond.lesson lesson.courseRef lesson.lessonId).Paired .push
      (Bond.Adopted (.lesson lesson.courseRef lesson.lessonId)
        ({ lesson with contents := [] } : Lesson)) store)
  updateLesson : ∀ spare change, Leads spare store (Curriculum.updateLesson change)
    (store.Single (store.Updated .lesson change.courseRef change.lessonId))
  deleteLesson : ∀ spare courseRef lessonId,
    Leads spare store (Curriculum.deleteLesson courseRef lessonId)
      ((Bond.lesson courseRef lessonId).Paired .pull (Bond.Dropped (.lesson courseRef lessonId)) store)
  createContent : ∀ spare (content : Content), Leads spare store (Curriculum.createContent content)
    ((Bond.content content.courseRef content.lessonRef content.contentId).Paired .push
      (Bond.Adopted (.content content.courseRef content.lessonRef content.contentId) content) store)
  updateContent : ∀ spare change, Leads spare store (Curriculum.updateContent change)
    (store.Single (store.Updated .content change.courseRef change.contentId))
  deleteContent : ∀ spare courseRef contentId,
    Leads spare store (Curriculum.deleteContent courseRef contentId) fun result next => ∃ lessonRef,
      (Bond.content courseRef lessonRef contentId).Paired .pull
        (Bond.Dropped (.content courseRef lessonRef contentId)) store result next

/-- **A workflow that fails tells what it has done.** On a store whose documents represent records,
whatever calls of a workflow fail and with whatever errors: one that returns has made all its writes; one
that reports a list that did not follow has written just the child, and names it, its parent and the
edit; after any other error the store is as it was. -/
theorem fails_atomically {store : Store} (regular : store.Regular) : store.FailsAtomically where
  createCourse _ now course := Curriculum.leads_createCourse now course
  updateCourse _ change := Curriculum.leads_records
    (Records.leads_update .course (c := change.courseId) (fun _ => Course.place_eq) regular nofun)
  deleteCourse _ courseId := Curriculum.leads_deleteCourse regular courseId
  createLesson _ lesson := Curriculum.leads_createLesson regular lesson
  updateLesson _ change := Curriculum.leads_records
    (Records.leads_update .lesson (c := change.courseRef) (fun _ => Lesson.place_eq) regular nofun)
  deleteLesson _ courseRef lessonId := Curriculum.leads_deleteLesson regular courseRef lessonId
  createContent _ content := Curriculum.leads_createContent regular content
  updateContent _ change := Curriculum.leads_records
    (Records.leads_update .content (c := change.courseRef) (fun _ => Content.place_eq) regular nofun)
  deleteContent _ courseRef contentId := Curriculum.leads_deleteContent regular courseRef contentId

/-- A course as others may have stored it: fields are left out, and no version is counted. -/
def bareCourse : Document := [
  (idKey, .string "algebra"),
  (Course.lessonsField, .array [.string "sets"]),
  ("courseId", .string "algebra")]

/-- A lesson of it. -/
def bareLesson : Document := [
  ("courseRef", .string "algebra"),
  ("lessonId", .string "sets"),
  (idKey, .string "sets")]

/-- A store with these two only. -/
def bareStore : Store :=
  ⟨[(coursesAt, [bareCourse]), (lessonsAt "algebra", [bareLesson])]⟩

theorem regular_bareStore : bareStore.Regular := by
  intro kind someone c document member
  cases kind with
  | user => exact absurd rfl someone
  | content =>
    have nothing : bareStore.documents (RecordKind.content.home c) = [] := by
      simp [bareStore, Store.documents, Store.documentsIn, RecordKind.home, RecordKind.collection,
        coursesAt, lessonsAt]
    rw [nothing] at member
    cases member
  | course =>
    rw [List.mem_singleton.mp member]
    exact ⟨{ Course.withId "algebra" with lessons := ["sets"] }, rfl, rfl,
      fun _ impossible => absurd impossible.symm (Option.some_ne_none _)⟩
  | lesson =>
    by_cases here : c = "algebra"
    · subst here
      rw [List.mem_singleton.mp member]
      exact ⟨Lesson.withId "algebra" "sets", rfl, rfl, fun name named => (Option.some.inj named).symm⟩
    · have nothing : bareStore.documents (RecordKind.lesson.home c) = [] := by
        simp [bareStore, Store.documents, Store.documentsIn, RecordKind.home, RecordKind.collection,
          RecordKind.isCourseScoped, coursesAt, lessonsAt, Ne.symm here]
      rw [nothing] at member
      cases member

/-- The calls of a deletion of this lesson, of which the last one is late. -/
def latePull : Except CurriculumError Unit × Outage :=
  (Curriculum.deleteLesson "algebra" "sets").run (Outage.respond ⟨0⟩)
    ⟨[none, none, some (.timeout "sync" 5000)], bareStore⟩

/-- The deletion as a case of the theorem: the lesson is gone, and the error tells that the course still
lists it. -/
theorem fails_atomically_of_late_pull :
    bareStore.Regular ∧
      latePull.1 = .error (.partialSync "pull" "sets" "course 'algebra'" (.timeout "sync" 5000)) ∧
      (Bond.lesson "algebra" "sets").Dropped bareStore latePull.2.store ∧
      latePull.2.store.documents coursesAt = [bareCourse] := by
  have failed : latePull.1 =
      .error (.partialSync "pull" "sets" "course 'algebra'" (.timeout "sync" 5000)) := by
    rfl
  have ends := (fails_atomically regular_bareStore).deleteLesson ⟨0⟩ "algebra" "sets"
    [none, none, some (.timeout "sync" 5000)]
  have same : Bond.Paired _ _ _ bareStore latePull.1 latePull.2.store := ends
  rw [failed] at same
  exact ⟨regular_bareStore, failed, same.2.1, same.2.2⟩

end Syllabus
