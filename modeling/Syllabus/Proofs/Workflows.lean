/-
**What the workflows do to the catalog.**

Each workflow, run on its own on a store that keeps a consistent catalog, either leaves the store as it
was or one that keeps a consistent catalog again. What comes between its writes is told here too: the
child is there and not listed, or listed and not there, until the parent has followed.

* `Store.Keeps` — the store keeps a catalog; `Store.Sound` — one that is consistent;
* `Curriculum.yields_createCourse`, `Curriculum.yields_deleteLesson` and the like — the workflows;
  where one creates or deletes, it leaves its record without children, and it fails for want of its
  parent, for a taken id or for children only.
-/

import Syllabus.Proofs.Catalog
import Syllabus.Proofs.Keeping

namespace Syllabus

/-! ### Stores that keep a catalog -/

namespace Store

/-- The store keeps the courses, lessons and contents of the catalog. -/
structure Keeps (store : Store) (catalog : Catalog) : Prop where
  courses : store.Shelf coursesAt catalog.courses
  lessons : ∀ c, store.Shelf (lessonsAt c) (catalog.lessons c)
  contents : ∀ c, store.Shelf (contentsAt c) (catalog.contents c)

/-- The store keeps a consistent catalog, which has the property. -/
def Sound (property : Catalog → Prop) (store : Store) : Prop :=
  ∃ catalog, store.Keeps catalog ∧ catalog.Consistent ∧ property catalog

/-- The store keeps a consistent catalog. -/
abbrev Tidy : Store → Prop :=
  Sound fun _ => True

theorem Sound.tidy {property : Catalog → Prop} {store : Store} (sound : store.Sound property) :
    store.Tidy := by
  obtain ⟨catalog, keeps, consistent, _⟩ := sound
  exact ⟨catalog, keeps, consistent, trivial⟩

theorem tidy_empty : empty.Tidy :=
  ⟨.empty, ⟨.nil rfl, fun _ => .nil rfl, fun _ => .nil rfl⟩, Catalog.consistent_empty, trivial⟩

namespace Keeps

variable {old next : Store} {catalog : Catalog}

/-- Records of different kinds are never in one namespace. -/
theorem apart (kind other : RecordKind) (different : kind ≠ other) (c d : String) :
    (⟨c, kind.collection⟩ : Namespace) ≠ ⟨d, other.collection⟩ := by
  intro same
  have collections : kind.collection = other.collection := congrArg Namespace.collection same
  revert different collections
  cases kind <;> cases other <;> decide

/-- Elsewhere than where the catalog is kept, anything may change. -/
theorem of_users (keeps : old.Keeps catalog)
    (elsewhere : ∀ kept, kept ≠ ⟨systemDatabase, RecordKind.user.collection⟩ →
      next.documents kept = old.documents kept) : next.Keeps catalog where
  courses := keeps.courses.of_documents_eq (elsewhere _ (apart .course .user (by decide) _ _))
  lessons c := (keeps.lessons c).of_documents_eq
    (elsewhere _ (apart .lesson .user (by decide) _ _))
  contents c := (keeps.contents c).of_documents_eq
    (elsewhere _ (apart .content .user (by decide) _ _))

theorem turn_courses (keeps : old.Keeps catalog) {entries : List (Entry Course)}
    (turned : Turned old next coursesAt entries) : next.Keeps (catalog.setCourses entries) where
  courses := turned.shelf
  lessons c := (keeps.lessons c).of_documents_eq
    (turned.elsewhere _ (apart .lesson .course (by decide) _ _))
  contents c := (keeps.contents c).of_documents_eq
    (turned.elsewhere _ (apart .content .course (by decide) _ _))

theorem turn_lessons (keeps : old.Keeps catalog) {course : String} {entries : List (Entry Lesson)}
    (turned : Turned old next (lessonsAt course) entries) :
    next.Keeps (catalog.setLessons course entries) where
  courses := keeps.courses.of_documents_eq
    (turned.elsewhere _ (apart .course .lesson (by decide) _ _))
  lessons c := by
    by_cases here : c = course
    · subst here
      simpa [Catalog.setLessons] using turned.shelf
    · have other : lessonsAt c ≠ lessonsAt course := fun same =>
        here (congrArg Namespace.database same)
      simpa [Catalog.setLessons, here] using
        (keeps.lessons c).of_documents_eq (turned.elsewhere _ other)
  contents c := (keeps.contents c).of_documents_eq
    (turned.elsewhere _ (apart .content .lesson (by decide) _ _))

theorem turn_contents (keeps : old.Keeps catalog) {course : String} {entries : List (Entry Content)}
    (turned : Turned old next (contentsAt course) entries) :
    next.Keeps (catalog.setContents course entries) where
  courses := keeps.courses.of_documents_eq
    (turned.elsewhere _ (apart .course .content (by decide) _ _))
  lessons c := (keeps.lessons c).of_documents_eq
    (turned.elsewhere _ (apart .lesson .content (by decide) _ _))
  contents c := by
    by_cases here : c = course
    · subst here
      simpa [Catalog.setContents] using turned.shelf
    · have other : contentsAt c ≠ contentsAt course := fun same =>
        here (congrArg Namespace.database same)
      simpa [Catalog.setContents, here] using
        (keeps.contents c).of_documents_eq (turned.elsewhere _ other)

end Keeps

end Store

/-! ### Where the records are -/

/-- A place in the database of a course: the name of the course is usable for one. -/
theorem RecordKind.resolve_of_course {kind : RecordKind} (within : kind.isCourseScoped = true)
    {c : String} {ns : Namespace} (placed : kind.resolve (some c) = .ok ns) :
    ns = ⟨c, kind.collection⟩ ∧ isDatabaseName c = true := by
  unfold resolve checkDatabaseName at placed
  rw [if_pos within] at placed
  dsimp only at placed
  split at placed
  · cases placed
  · split at placed
    · next usable => exact ⟨(Except.ok.inj placed).symm, usable⟩
    · cases placed

/-- Where the id of a course can name a database, its records have their places there. -/
theorem RecordKind.resolve_of_usable {kind : RecordKind} (within : kind.isCourseScoped = true)
    {c : String} (usable : isDatabaseName c = true) :
    kind.resolve (some c) = .ok ⟨c, kind.collection⟩ := by
  have named : c.isEmpty = false := by
    unfold isDatabaseName at usable
    cases empty : c.isEmpty with
    | false => rfl
    | true => simp [empty] at usable
  simp [resolve, within, named, checkDatabaseName, usable, Except.map]

theorem Course.place_eq {course : Course} {ns : Namespace} (placed : Record.place course = .ok ns) :
    ns = coursesAt :=
  (Except.ok.inj placed).symm

theorem Lesson.place_eq {lesson : Lesson} {ns : Namespace} (placed : Record.place lesson = .ok ns) :
    ns = lessonsAt lesson.courseRef :=
  (RecordKind.resolve_of_course rfl placed).1

theorem Content.place_eq {content : Content} {ns : Namespace}
    (placed : Record.place content = .ok ns) : ns = contentsAt content.courseRef :=
  (RecordKind.resolve_of_course rfl placed).1

/-- Where one lesson is, there is a place for all records of the course. -/
theorem Lesson.usable_of_place {lesson : Lesson} {c : String}
    (placed : Record.place lesson = .ok (lessonsAt c)) : isDatabaseName c = true := by
  obtain ⟨here, usable⟩ := RecordKind.resolve_of_course rfl placed
  have database : c = lesson.courseRef := congrArg Namespace.database here
  exact database ▸ usable

theorem Content.usable_of_place {content : Content} {c : String}
    (placed : Record.place content = .ok (contentsAt c)) : isDatabaseName c = true := by
  obtain ⟨here, usable⟩ := RecordKind.resolve_of_course rfl placed
  have database : c = content.courseRef := congrArg Namespace.database here
  exact database ▸ usable

theorem Lesson.place_of_usable {lesson : Lesson} (usable : isDatabaseName lesson.courseRef = true) :
    Record.place lesson = .ok (lessonsAt lesson.courseRef) :=
  RecordKind.resolve_of_usable rfl usable

theorem Content.place_of_usable {content : Content}
    (usable : isDatabaseName content.courseRef = true) :
    Record.place content = .ok (contentsAt content.courseRef) :=
  RecordKind.resolve_of_usable rfl usable

namespace Curriculum

open Program (Yields)

variable {spare : ObjectId}

theorem yields_checkDatabaseName {name : String} {before lost : Store → Prop}
    (loses : isDatabaseName name = false → ∀ store, before store → lost store) :
    Yields (Store.respond spare) before
      (Program.ofExcept (checkDatabaseName name) : StoreProgram StoreError Unit)
      (fun _ store => before store ∧ isDatabaseName name = true) lost := by
  unfold checkDatabaseName
  split
  · next usable => exact .done fun store known => ⟨known, usable⟩
  · next unusable => exact .fail (loses (Bool.eq_false_iff.mpr unusable))

/-- What passes the check has no children. -/
theorem yields_ensureEmpty {kind : RecordKind} {id field : String} {children : List String}
    {before lost : Store → Prop} (loses : children ≠ [] → ∀ store, before store → lost store) :
    Yields (Store.respond spare) before (ensureEmpty kind id field children)
      (fun _ store => before store ∧ children = []) lost := by
  unfold ensureEmpty
  split
  · next none => exact .done fun store known => ⟨known, List.isEmpty_iff.mp none⟩
  · next some => exact .fail (loses fun none => some (List.isEmpty_iff.mpr none))

/-! ### Courses -/

section

variable {store : Store} {catalog : Catalog} (keeps : store.Keeps catalog)
  (consistent : catalog.Consistent)

include keeps consistent

/-- A course is created without lessons, unless its id is not usable or taken. -/
theorem yields_createCourse (now : Instant) (course : Course) :
    Yields (Store.respond spare) (· = store) (createCourse now course)
      (fun created => Store.Sound fun catalog => ⟨1, created⟩ ∈ catalog.courses ∧
        created.courseId = course.courseId ∧ created.lessons = [] ∧
        catalog.lessons course.courseId = [])
      (fun next => next = store ∧ (isDatabaseName course.courseId = false ∨
        course.courseId ∈ catalog.courses.map Entry.key)) := by
  have shelf : ∀ old, old = store → old.Shelf coursesAt catalog.courses :=
    fun _ same => same ▸ keeps.courses
  refine .bind (.mapError (yields_checkDatabaseName fun unusable _ same => ⟨same, .inl unusable⟩) _)
    fun _ => .given fun usable => ?_
  refine .bind (.mapError (Records.yields_checkUnique shelf rfl rfl fun taken _ same =>
    ⟨same, .inr (List.mem_map.mpr taken)⟩) _) fun _ => .given fun fresh => ?_
  refine .bind (.mapError (Records.yields_create shelf rfl fresh ?_) _) fun _ => .done fun _ => id
  rintro _ next rfl turned
  have fresh := Store.Shelf.fresh_iff.mp fresh
  exact ⟨_, keeps.turn_courses turned, consistent.addCourse fresh rfl usable,
    List.mem_append_right _ (List.mem_singleton_self _), rfl, rfl, consistent.lessons_eq_nil fresh⟩

theorem yields_updateCourse (change : Course) :
    Yields (Store.respond spare) (· = store) (updateCourse change) (fun _ => Store.Tidy)
      (· = store) := by
  refine .mapError (Records.yields_update (fun _ same => same ▸ keeps.courses)
    (fun _ => Course.place_eq) (fun _ => id) ?_) _
  rintro _ next rfl turned
  refine ⟨_, keeps.turn_courses turned, consistent.changeCourse ?_, trivial⟩
  exact fun entry _ keyed => ⟨(Entry.key_merged change entry).trans keyed, rfl⟩

/-- A course is deleted if it is there and has no lessons. -/
theorem yields_deleteCourse (courseId : String) :
    Yields (Store.respond spare) (· = store) (deleteCourse courseId)
      (fun _ => Store.Sound fun catalog => courseId ∉ catalog.courses.map Entry.key ∧
        catalog.lessons courseId = [])
      (fun next => next = store ∧
        (courseId ∈ catalog.courses.map Entry.key → catalog.lessons courseId ≠ [])) := by
  have shelf : ∀ old, old = store → old.Shelf coursesAt catalog.courses :=
    fun _ same => same ▸ keeps.courses
  refine .bind (.mapError (Records.yields_get shelf (fun _ => Course.place_eq) (fun _ _ => rfl)
    fun missing _ same => ⟨same, fun there => absurd there (Store.Shelf.fresh_iff.mp missing)⟩) _)
    fun course => .given fun ⟨_, entry, member, same, keyed⟩ => ?_
  subst same
  have keyed : entry.key = courseId := keyed
  have listed := consistent.lessons entry member
  rw [keyed] at listed
  refine .bind (yields_ensureEmpty fun some _ same => ⟨same, fun _ none => some ?_⟩)
    fun _ => .given fun childless => ?_
  · rw [listed, none, List.map_nil]
  have nothing : catalog.lessons courseId = [] :=
    List.map_eq_nil_iff.mp (listed.symm.trans childless)
  refine .mapError (Records.yields_delete shelf rfl ⟨entry, member, rfl⟩ ?_) _
  rintro _ next rfl turned
  have gone : Record.id entry.record = courseId := keyed
  rw [gone] at turned
  exact ⟨_, keeps.turn_courses turned, consistent.dropCourse nothing, by simp [Catalog.setCourses],
    nothing⟩

/-! ### Lessons -/

/-- A lesson is created without contents, unless there is no course for it or its id is taken. -/
theorem yields_createLesson (lesson : Lesson) :
    Yields (Store.respond spare) (· = store) (createLesson lesson)
      (fun created => Store.Sound fun catalog => ⟨1, created⟩ ∈ catalog.lessons lesson.courseRef ∧
        created.lessonId = lesson.lessonId ∧ created.contents = [] ∧
        ∀ content ∈ catalog.contents lesson.courseRef, content.record.lessonRef ≠ lesson.lessonId)
      (fun next => next = store ∧ (lesson.courseRef ∈ catalog.courses.map Entry.key →
        lesson.lessonId ∈ (catalog.lessons lesson.courseRef).map Entry.key)) := by
  have shelf : ∀ old, old = store →
      old.Shelf (lessonsAt lesson.courseRef) (catalog.lessons lesson.courseRef) :=
    fun _ same => same ▸ keeps.lessons lesson.courseRef
  refine .bind (.mapError (Records.yields_get (fun _ same => same ▸ keeps.courses)
    (fun _ => Course.place_eq) (fun _ _ => rfl) fun missing _ same =>
      ⟨same, fun there => absurd there (Store.Shelf.fresh_iff.mp missing)⟩) _)
    fun course => .given fun ⟨_, entry, member, same, keyed⟩ => ?_
  subst same
  have keyed : entry.key = lesson.courseRef := keyed
  have founder := List.mem_map.mpr ⟨entry, member, keyed⟩
  have placed : Record.place { lesson with contents := [] } = .ok (lessonsAt lesson.courseRef) :=
    Lesson.place_of_usable (consistent.usable _ founder)
  refine .bind (.mapError (Records.yields_checkUnique shelf placed rfl fun taken _ same =>
    ⟨same, fun _ => List.mem_map.mpr taken⟩) _) fun _ => .given fun fresh => ?_
  -- Until it is listed, the new lesson is there without its course knowing.
  refine .bind (.mapError (Records.yields_create shelf placed fresh
    fun _ _ same turned => (same ▸ keeps).turn_lessons turned) _) fun _ => ?_
  refine .bind (.mapError (Records.yields_sync .lessons (fun _ keeps => keeps.courses) rfl keyed
    ⟨entry, member, keyed⟩ ?_) _) fun _ => .done fun _ => id
  intro old next keeps turned
  have fresh := Store.Shelf.fresh_iff.mp fresh
  refine ⟨_, keeps.turn_courses turned, consistent.addLesson founder fresh rfl, ?_, rfl, rfl,
    consistent.no_contents fresh⟩
  simp [Catalog.setCourses, Catalog.setLessons]

theorem yields_updateLesson (change : Lesson) :
    Yields (Store.respond spare) (· = store) (updateLesson change) (fun _ => Store.Tidy)
      (· = store) := by
  refine .mapError (Records.yields_update (fun _ same => same ▸ keeps.lessons change.courseRef)
    (fun _ => Lesson.place_eq) (fun _ => id) ?_) _
  rintro _ next rfl turned
  refine ⟨_, keeps.turn_lessons turned, consistent.changeLesson ?_, trivial⟩
  exact fun entry _ keyed => ⟨(Entry.key_merged change entry).trans keyed, rfl⟩

/-- A lesson is deleted if it is there and has no contents. -/
theorem yields_deleteLesson (courseRef lessonId : String) :
    Yields (Store.respond spare) (· = store) (deleteLesson courseRef lessonId)
      (fun _ => Store.Sound fun catalog => lessonId ∉ (catalog.lessons courseRef).map Entry.key ∧
        ∀ content ∈ catalog.contents courseRef, content.record.lessonRef ≠ lessonId)
      (fun next => next = store ∧ (lessonId ∈ (catalog.lessons courseRef).map Entry.key →
        ∃ content ∈ catalog.contents courseRef, content.record.lessonRef = lessonId)) := by
  have shelf : ∀ old, old = store → old.Shelf (lessonsAt courseRef) (catalog.lessons courseRef) :=
    fun _ same => same ▸ keeps.lessons courseRef
  refine .bind (.mapError (Records.yields_get shelf (fun _ => Lesson.place_eq)
    (fun _ placed => Lesson.place_of_usable (Lesson.usable_of_place placed)) fun missing _ same =>
      ⟨same, fun there => absurd there (Store.Shelf.fresh_iff.mp missing)⟩) _)
    fun lesson => .given fun ⟨placed, entry, member, same, keyed⟩ => ?_
  subst same
  have keyed : entry.key = lessonId := keyed
  have listed := consistent.contents courseRef entry member
  rw [keyed] at listed
  have founder := List.mem_map.mp (consistent.founded courseRef (List.ne_nil_of_mem member))
  refine .bind (yields_ensureEmpty fun some _ same => ⟨same, fun _ => ?_⟩)
    fun _ => .given fun childless => ?_
  · rw [listed, ne_eq, List.map_eq_nil_iff] at some
    obtain ⟨content, known⟩ := List.exists_mem_of_ne_nil _ some
    exact ⟨content, (List.mem_filter.mp known).1, eq_of_beq (List.mem_filter.mp known).2⟩
  have nothing : ∀ content ∈ catalog.contents courseRef, content.record.lessonRef ≠ lessonId := by
    rw [childless] at listed
    simpa using List.filter_eq_nil_iff.mp (List.map_eq_nil_iff.mp listed.symm)
  -- Until the course has followed, it lists a lesson that is gone.
  refine .bind (.mapError (Records.yields_delete shelf placed ⟨entry, member, rfl⟩
    fun _ _ same turned => (same ▸ keeps).turn_lessons turned) _) fun _ => ?_
  have named : Record.id (Course.withId courseRef) = courseRef := rfl
  refine .mapError (Records.yields_sync .lessons (fun _ keeps => keeps.courses) rfl named
    founder ?_) _
  intro old next keeps turned
  have gone : Record.id entry.record = lessonId := keyed
  rw [gone] at keeps
  refine ⟨_, keeps.turn_courses turned, consistent.dropLesson nothing, ?_, nothing⟩
  simp [Catalog.setCourses, Catalog.setLessons]

/-! ### Contents -/

/-- A content is created, unless there is no lesson for it or its id is taken. -/
theorem yields_createContent (content : Content) :
    Yields (Store.respond spare) (· = store) (createContent content)
      (fun created => Store.Sound fun catalog => created = content ∧
        ⟨1, content⟩ ∈ catalog.contents content.courseRef)
      (fun next => next = store ∧
        (content.lessonRef ∈ (catalog.lessons content.courseRef).map Entry.key →
          content.contentId ∈ (catalog.contents content.courseRef).map Entry.key)) := by
  have shelf : ∀ old, old = store →
      old.Shelf (contentsAt content.courseRef) (catalog.contents content.courseRef) :=
    fun _ same => same ▸ keeps.contents content.courseRef
  refine .bind (.mapError (Records.yields_get
    (fun _ same => same ▸ keeps.lessons content.courseRef) (fun _ => Lesson.place_eq)
    (fun _ placed => Lesson.place_of_usable (Lesson.usable_of_place placed)) fun missing _ same =>
      ⟨same, fun there => absurd there (Store.Shelf.fresh_iff.mp missing)⟩) _)
    fun lesson => .given fun ⟨placed, entry, member, same, keyed⟩ => ?_
  subst same
  have keyed : entry.key = content.lessonRef := keyed
  have home : Record.place content = .ok (contentsAt content.courseRef) :=
    Content.place_of_usable (Lesson.usable_of_place placed)
  refine .bind (.mapError (Records.yields_checkUnique shelf home rfl fun taken _ same =>
    ⟨same, fun _ => List.mem_map.mpr taken⟩) _) fun _ => .given fun fresh => ?_
  refine .bind (.mapError (Records.yields_create shelf home fresh
    fun _ _ same turned => (same ▸ keeps).turn_contents turned) _) fun _ => ?_
  refine .bind (.mapError (Records.yields_sync .contents
    (fun _ keeps => keeps.lessons content.courseRef) placed keyed ⟨entry, member, keyed⟩ ?_) _)
    fun _ => .done fun _ => id
  intro old next keeps turned
  refine ⟨_, keeps.turn_lessons turned,
    consistent.addContent (List.mem_map.mpr ⟨entry, member, keyed⟩), rfl, ?_⟩
  simp [Catalog.setLessons, Catalog.setContents]

theorem yields_updateContent (change : Content) :
    Yields (Store.respond spare) (· = store) (updateContent change) (fun _ => Store.Tidy)
      (· = store) := by
  refine .mapError (Records.yields_update (fun _ same => same ▸ keeps.contents change.courseRef)
    (fun _ => Content.place_eq) (fun _ => id) ?_) _
  rintro _ next rfl turned
  refine ⟨_, keeps.turn_contents turned, consistent.changeContent ?_, trivial⟩
  exact fun entry _ keyed => ⟨(Entry.key_merged change entry).trans keyed, rfl⟩

/-- A content is not there after its deletion, and was not if the deletion fails. -/
theorem yields_deleteContent (courseRef contentId : String) :
    Yields (Store.respond spare) (· = store) (deleteContent courseRef contentId)
      (fun _ => Store.Sound fun catalog => contentId ∉ (catalog.contents courseRef).map Entry.key)
      (fun next => next = store ∧ contentId ∉ (catalog.contents courseRef).map Entry.key) := by
  have shelf : ∀ old, old = store → old.Shelf (contentsAt courseRef) (catalog.contents courseRef) :=
    fun _ same => same ▸ keeps.contents courseRef
  refine .bind (.mapError (Records.yields_get shelf (fun _ => Content.place_eq)
    (fun _ placed => Content.place_of_usable (Content.usable_of_place placed)) fun missing _ same =>
      ⟨same, Store.Shelf.fresh_iff.mp missing⟩) _)
    fun content => .given fun ⟨placed, entry, member, same, keyed⟩ => ?_
  subst same
  have parent := List.mem_map.mp (consistent.sheltered courseRef entry member)
  refine .bind (.mapError (Records.yields_delete shelf placed ⟨entry, member, rfl⟩
    fun _ _ same turned => (same ▸ keeps).turn_contents turned) _) fun _ => ?_
  have home : Record.place (Lesson.withId courseRef entry.record.lessonRef) =
      .ok (lessonsAt courseRef) := Lesson.place_of_usable (Content.usable_of_place placed)
  refine .mapError (Records.yields_sync .contents (fun _ keeps => keeps.lessons courseRef) home rfl
    parent ?_) _
  intro old next left turned
  have keyed : contentId = entry.key := keyed.symm
  rw [keyed] at turned ⊢
  have distinct := (keeps.contents courseRef).distinct
  refine ⟨_, left.turn_lessons turned, consistent.dropContent distinct member, ?_⟩
  simp [Catalog.setLessons, Catalog.setContents, Entry.key]

end

end Curriculum

end Syllabus
