/-
**Membership lists stay in step with the records.**

Requests and workflows, one after another, on a store that was empty at first. After any number of them
every course lists just its lessons and every lesson just its contents, in the order they are stored in,
and nothing is without its parent.

* `Service.preserves_serve` — a request keeps a store tidy, whatever it asks for;
* `Visit`, `Store.visited` — requests and workflows, and the store after a list of them;
* `Store.InStep` — the lists are those of the records that the documents stand for;
* `Store.Faithful` — creations and deletions return where they should, and leave no children;
* **`membership_consistent`** — every store that is reached is in step and faithful.
-/

import Syllabus.Api.Service
import Syllabus.Proofs.Keyed
import Syllabus.Proofs.Workflows

namespace Syllabus

open Program (Yields Preserves)

/-! ### Requests -/

section Requests

variable {spare : ObjectId} {ε α : Type} {program : StoreProgram ε α}

/-- Whoever only reads keeps the store tidy. -/
theorem preserves_of_reads (reads : program.Asks Call.Reads) :
    Preserves (Store.respond spare) Store.Tidy program :=
  (Yields.of_reads reads).preserves

/-- Whoever writes to the users only keeps the store tidy. -/
theorem preserves_of_users
    (within : program.Asks (Call.Within ⟨systemDatabase, RecordKind.user.collection⟩)) :
    Preserves (Store.respond spare) Store.Tidy program := by
  intro store tidy
  refine within.run_preserves (fun call store within tidy => ?_) tidy
  obtain ⟨catalog, keeps, consistent, _⟩ := tidy
  exact ⟨catalog, keeps.of_users fun kept different =>
    Store.documents_respond_of_ne call within different spare store, consistent, trivial⟩

/-- A workflow keeps the store tidy, which it leaves alone where it fails. -/
theorem preserves_of_yields {property : α → Catalog → Prop} {lost : Store → Catalog → Store → Prop}
    (yields : ∀ {store catalog}, store.Keeps catalog → catalog.Consistent →
      Yields (Store.respond spare) (· = store) program (fun value => Store.Sound (property value))
        (lost store catalog))
    (alone : ∀ {store catalog next}, lost store catalog next → next = store) :
    Preserves (Store.respond spare) Store.Tidy program := by
  refine Yields.preserves fun store tidy => ?_
  obtain ⟨catalog, keeps, consistent, _⟩ := tidy
  refine (yields keeps consistent).weaken (fun _ => id) (fun _ _ => Store.Sound.tidy) ?_ store rfl
  intro next failed
  exact alone failed ▸ ⟨catalog, keeps, consistent, trivial⟩

end Requests

namespace Curriculum

variable {spare : ObjectId}

theorem preserves_createCourse (now : Instant) (course : Course) :
    Preserves (Store.respond spare) Store.Tidy (createCourse now course) :=
  preserves_of_yields
    (fun keeps consistent => yields_createCourse keeps consistent now course) And.left

theorem preserves_updateCourse (change : Course) :
    Preserves (Store.respond spare) Store.Tidy (updateCourse change) :=
  preserves_of_yields (fun keeps consistent => yields_updateCourse keeps consistent change) id

theorem preserves_deleteCourse (courseId : String) :
    Preserves (Store.respond spare) Store.Tidy (deleteCourse courseId) :=
  preserves_of_yields
    (fun keeps consistent => yields_deleteCourse keeps consistent courseId) And.left

theorem preserves_createLesson (lesson : Lesson) :
    Preserves (Store.respond spare) Store.Tidy (createLesson lesson) :=
  preserves_of_yields (fun keeps consistent => yields_createLesson keeps consistent lesson) And.left

theorem preserves_updateLesson (change : Lesson) :
    Preserves (Store.respond spare) Store.Tidy (updateLesson change) :=
  preserves_of_yields (fun keeps consistent => yields_updateLesson keeps consistent change) id

theorem preserves_deleteLesson (courseRef lessonId : String) :
    Preserves (Store.respond spare) Store.Tidy (deleteLesson courseRef lessonId) :=
  preserves_of_yields
    (fun keeps consistent => yields_deleteLesson keeps consistent courseRef lessonId) And.left

theorem preserves_createContent (content : Content) :
    Preserves (Store.respond spare) Store.Tidy (createContent content) :=
  preserves_of_yields
    (fun keeps consistent => yields_createContent keeps consistent content) And.left

theorem preserves_updateContent (change : Content) :
    Preserves (Store.respond spare) Store.Tidy (updateContent change) :=
  preserves_of_yields (fun keeps consistent => yields_updateContent keeps consistent change) id

theorem preserves_deleteContent (courseRef contentId : String) :
    Preserves (Store.respond spare) Store.Tidy (deleteContent courseRef contentId) :=
  preserves_of_yields
    (fun keeps consistent => yields_deleteContent keeps consistent courseRef contentId) And.left

end Curriculum

namespace Handler

open Curriculum

variable {spare : ObjectId}

/-- A request that decodes its body first. -/
theorem preserves_body {α : Type} [Codec α] (request : Http.Request)
    {next : α → StoreProgram ApiError Reply}
    (rest : ∀ value, Preserves (Store.respond spare) Store.Tidy (next value)) :
    Preserves (Store.respond spare) Store.Tidy (body request >>= next) :=
  .bind (.ofExcept _) rest

/-- A request that answers with what a program returned. -/
theorem preserves_reply {ε α : Type} {program : StoreProgram ε α} {change : ε → ApiError}
    {reply : α → Reply} (preserves : Preserves (Store.respond spare) Store.Tidy program) :
    Preserves (Store.respond spare) Store.Tidy
      (program.mapError change >>= fun value => pure (reply value)) :=
  .bind (.mapError preserves change) fun _ => .done _

/-- Every request to a resource keeps the store tidy. -/
theorem preserves_handle {backendName : String} {occasion : Occasion} {request : Http.Request}
    {verb : Verb} {route : Route} {program : StoreProgram ApiError Reply}
    (handled : handle backendName occasion request verb route = some program) :
    Preserves (Store.respond spare) Store.Tidy program := by
  cases verb <;> cases route <;> cases handled
  case get.health => exact preserves_reply (preserves_of_reads Records.asks_ping)
  case get.courses | get.lessons | get.contents | get.users =>
    exact preserves_reply (preserves_of_reads (Records.asks_list _))
  case get.course | get.lesson | get.content | get.user =>
    exact preserves_reply (preserves_of_reads (Records.asks_get _))
  case post.courses =>
    exact preserves_body request fun course =>
      preserves_reply (preserves_createCourse occasion.now course)
  case put.course courseId =>
    exact preserves_body request fun change => preserves_reply (preserves_updateCourse _)
  case delete.course courseId =>
    exact preserves_reply (preserves_deleteCourse courseId)
  case post.lessons courseRef =>
    exact preserves_body request fun lesson => preserves_reply (preserves_createLesson _)
  case put.lesson courseRef lessonId =>
    exact preserves_body request fun change => preserves_reply (preserves_updateLesson _)
  case delete.lesson courseRef lessonId =>
    exact preserves_reply (preserves_deleteLesson courseRef lessonId)
  case post.contents courseRef =>
    refine preserves_body request fun content => ?_
    split
    · exact .fail _
    · exact preserves_reply (preserves_createContent _)
  case put.content courseRef contentId =>
    exact preserves_body request fun change => preserves_reply (preserves_updateContent _)
  case delete.content courseRef contentId =>
    exact preserves_reply (preserves_deleteContent courseRef contentId)
  case post.users =>
    refine preserves_body request fun user => ?_
    split
    · exact .fail _
    · refine .bind (.mapError (preserves_of_reads ?_) _) fun _ => ?_
      · exact (Records.asks_checkUnique rfl).mono fun _ => Call.Counts.reads
      · exact .bind (.mapError (preserves_of_users (Records.asks_create rfl)) _) fun _ => .done _
  case put.user userName =>
    exact preserves_body request fun change => preserves_reply (preserves_of_users (Records.asks_update rfl))
  case delete.user userName =>
    exact preserves_reply (preserves_of_users (Records.asks_delete rfl))

end Handler

namespace Service

variable {spare : ObjectId}

theorem preserves_routeWhole (backendName : String) (occasion : Occasion) (request : Http.Request) :
    Preserves (Store.respond spare) Store.Tidy (routeWhole backendName occasion request) := by
  unfold routeWhole
  split
  · exact .done _
  · split
    · exact .done _
    · split
      · exact .done _
      · split
        · exact .done _
        · split
          · exact .done _
          · next handled =>
            exact .bind (.outcome (Handler.preserves_handle handled)) fun _ => .done _

/-- **A request keeps the store tidy**, whatever it asks for. -/
theorem preserves_serve (backendName : String) (cors : Option Http.Cors) (occasion : Occasion)
    (request : Http.Request) :
    Preserves (Store.respond spare) Store.Tidy (serve backendName cors occasion request) := by
  have routed : Preserves (Store.respond spare) Store.Tidy (route backendName occasion request) :=
    .bind (preserves_routeWhole backendName occasion request) fun _ => .done _
  unfold serve
  split
  · exact routed
  · split
    · exact .done _
    · exact .bind routed fun _ => .done _

end Service

/-! ### Visits -/

/-- A request, or a workflow on its own. -/
inductive Visit where
  | http (cors : Option Http.Cors) (occasion : Occasion) (request : Http.Request)
  | createCourse (now : Instant) (course : Course)
  | updateCourse (change : Course)
  | deleteCourse (courseId : String)
  | createLesson (lesson : Lesson)
  | updateLesson (change : Lesson)
  | deleteLesson (courseRef lessonId : String)
  | createContent (content : Content)
  | updateContent (change : Content)
  | deleteContent (courseRef contentId : String)

/-- The store that a visit leaves. -/
def Visit.leaves (spare : ObjectId) (store : Store) : Visit → Store
  | .http cors occasion request =>
    ran (Service.serve Store.backendName cors occasion request)
  | .createCourse now course => ran (Curriculum.createCourse now course)
  | .updateCourse change => ran (Curriculum.updateCourse change)
  | .deleteCourse courseId => ran (Curriculum.deleteCourse courseId)
  | .createLesson lesson => ran (Curriculum.createLesson lesson)
  | .updateLesson change => ran (Curriculum.updateLesson change)
  | .deleteLesson courseRef lessonId => ran (Curriculum.deleteLesson courseRef lessonId)
  | .createContent content => ran (Curriculum.createContent content)
  | .updateContent change => ran (Curriculum.updateContent change)
  | .deleteContent courseRef contentId => ran (Curriculum.deleteContent courseRef contentId)
where
  /-- The store after a run. -/
  ran {ε α : Type} (program : StoreProgram ε α) : Store :=
    (program.run (Store.respond spare) store).2

/-- The store after visits, one after another, each with a spare key of its own. -/
def Store.visited (store : Store) (visits : List (ObjectId × Visit)) : Store :=
  visits.foldl (fun store (spare, visit) => visit.leaves spare store) store

theorem Visit.tidy_leaves (visit : Visit) (spare : ObjectId) {store : Store} (tidy : store.Tidy) :
    (visit.leaves spare store).Tidy := by
  cases visit with
  | http cors occasion request => exact Service.preserves_serve _ cors occasion request store tidy
  | createCourse now course => exact Curriculum.preserves_createCourse now course store tidy
  | updateCourse change => exact Curriculum.preserves_updateCourse change store tidy
  | deleteCourse courseId => exact Curriculum.preserves_deleteCourse courseId store tidy
  | createLesson lesson => exact Curriculum.preserves_createLesson lesson store tidy
  | updateLesson change => exact Curriculum.preserves_updateLesson change store tidy
  | deleteLesson courseRef lessonId =>
    exact Curriculum.preserves_deleteLesson courseRef lessonId store tidy
  | createContent content => exact Curriculum.preserves_createContent content store tidy
  | updateContent change => exact Curriculum.preserves_updateContent change store tidy
  | deleteContent courseRef contentId =>
    exact Curriculum.preserves_deleteContent courseRef contentId store tidy

/-- Visits keep a store tidy. -/
theorem tidy_visited (visits : List (ObjectId × Visit)) {store : Store} (tidy : store.Tidy) :
    (store.visited visits).Tidy := by
  induction visits generalizing store with
  | nil => exact tidy
  | cons first rest ih => exact ih (first.2.tidy_leaves first.1 tidy)

/-! ### Lists and records in step -/

namespace Store

/-- The documents of the namespace stand for these records, in order: each has the key of its record
and is at its place. -/
structure Stores {ρ : Type} [Record ρ] (store : Store) (ns : Namespace) (records : List ρ) : Prop where
  decoded : Records.decodeAll ns (store.documents ns) = .ok records
  keyed : (store.documents ns).map (Document.get? idKey) =
    records.map fun record => some (.string (Record.id record))
  placed : ∀ record ∈ records, Record.place record = .ok ns

/-- The courses, and the lessons and contents of every database, are these, and are in step: courses
list just their lessons and lessons just their contents, as stored and once each, no database holds
any without its course, and no content is without its lesson. -/
structure InStep (store : Store) (courses : List Course) (lessons : String → List Lesson)
    (contents : String → List Content) : Prop where
  courses_stored : store.Stores coursesAt courses
  lessons_stored : ∀ c, store.Stores (lessonsAt c) (lessons c)
  contents_stored : ∀ c, store.Stores (contentsAt c) (contents c)
  lessons_listed : ∀ course ∈ courses,
    course.lessons = (lessons course.courseId).map (·.lessonId) ∧ course.lessons.Nodup
  contents_listed : ∀ c, ∀ lesson ∈ lessons c, lesson.contents =
    ((contents c).filter (·.lessonRef == lesson.lessonId)).map (·.contentId) ∧ lesson.contents.Nodup
  course_stored : ∀ c, lessons c ≠ [] ∨ contents c ≠ [] → ∃ course ∈ courses, course.courseId = c
  lesson_stored : ∀ c, ∀ content ∈ contents c, ∃ lesson ∈ lessons c,
    lesson.lessonId = content.lessonRef

/-- The database of a course holds neither lessons nor contents. -/
def NoLessons (store : Store) (c : String) : Prop :=
  store.documents (lessonsAt c) = [] ∧ store.documents (contentsAt c) = []

/-- The database of a course holds no content of a lesson. -/
def NoContents (store : Store) (c l : String) : Prop :=
  ∀ k, ∀ content : Content, store.recordAt .content (contentsAt c) k = some content →
    content.lessonRef ≠ l

/-- Creations and deletions return unless there is the one reason for them to fail, and leave the store
as it was where they fail: a creation for want of a parent or for an id that is taken (or, for a
course, that cannot name a database), and a deletion for want of the record or for its children. One
that returns has created the record, or deleted it, and leaves a course or lesson without children. -/
structure Faithful (store : Store) : Prop where
  createCourse : ∀ spare now course,
    Yields (Store.respond spare) (· = store) (Curriculum.createCourse now course)
      (fun created next => next.recordAt .course coursesAt course.courseId = some created ∧
        created.lessons = [] ∧ next.NoLessons course.courseId)
      (fun next => next = store ∧ (isDatabaseName course.courseId = false ∨
        store.recordAt .course coursesAt course.courseId ≠ none))
  deleteCourse : ∀ spare courseId,
    Yields (Store.respond spare) (· = store) (Curriculum.deleteCourse courseId)
      (fun _ next => next.recordAt .course coursesAt courseId = none ∧ next.NoLessons courseId)
      (fun next => next = store ∧
        (store.recordAt .course coursesAt courseId = none ∨ ¬ store.NoLessons courseId))
  createLesson : ∀ spare lesson,
    Yields (Store.respond spare) (· = store) (Curriculum.createLesson lesson)
      (fun created next =>
        next.recordAt .lesson (lessonsAt lesson.courseRef) lesson.lessonId = some created ∧
        created.contents = [] ∧ next.NoContents lesson.courseRef lesson.lessonId)
      (fun next => next = store ∧ (store.recordAt .course coursesAt lesson.courseRef = none ∨
        store.recordAt .lesson (lessonsAt lesson.courseRef) lesson.lessonId ≠ none))
  deleteLesson : ∀ spare courseRef lessonId,
    Yields (Store.respond spare) (· = store) (Curriculum.deleteLesson courseRef lessonId)
      (fun _ next => next.recordAt .lesson (lessonsAt courseRef) lessonId = none ∧
        next.NoContents courseRef lessonId)
      (fun next => next = store ∧ (store.recordAt .lesson (lessonsAt courseRef) lessonId = none ∨
        ¬ store.NoContents courseRef lessonId))
  createContent : ∀ spare content,
    Yields (Store.respond spare) (· = store) (Curriculum.createContent content)
      (fun created next => created = content ∧
        next.recordAt .content (contentsAt content.courseRef) content.contentId = some content)
      (fun next => next = store ∧
        (store.recordAt .lesson (lessonsAt content.courseRef) content.lessonRef = none ∨
          store.recordAt .content (contentsAt content.courseRef) content.contentId ≠ none))
  deleteContent : ∀ spare courseRef contentId,
    Yields (Store.respond spare) (· = store) (Curriculum.deleteContent courseRef contentId)
      (fun _ next => next.recordAt .content (contentsAt courseRef) contentId = none)
      (fun next => next = store ∧
        store.recordAt .content (contentsAt courseRef) contentId = none)

theorem Shelf.stores {ρ : Type} [Record ρ] [LawfulRecord ρ] {store : Store} {ns : Namespace}
    {entries : List (Entry ρ)} (shelf : store.Shelf ns entries) :
    store.Stores ns (entries.map Entry.record) where
  decoded := by rw [shelf.documents, Records.decodeAll_documents]
  keyed := by
    rw [shelf.documents, List.map_map, List.map_map]
    exact List.map_congr_left fun entry _ => Records.get?_stored_id ..
  placed := by
    intro record member
    obtain ⟨entry, known, rfl⟩ := List.mem_map.mp member
    exact shelf.placed entry known

/-- A tidy store is in step. -/
theorem Sound.inStep {store : Store} (tidy : store.Tidy) :
    ∃ courses lessons contents, store.InStep courses lessons contents := by
  obtain ⟨catalog, keeps, consistent, _⟩ := tidy
  refine ⟨catalog.courses.map Entry.record, fun c => (catalog.lessons c).map Entry.record,
    fun c => (catalog.contents c).map Entry.record, ?_⟩
  constructor
  case courses_stored => exact keeps.courses.stores
  case lessons_stored => exact fun c => (keeps.lessons c).stores
  case contents_stored => exact fun c => (keeps.contents c).stores
  case lessons_listed =>
    intro course member
    obtain ⟨entry, known, rfl⟩ := List.mem_map.mp member
    have listed := consistent.lessons entry known
    refine ⟨?_, ?_⟩
    · rw [listed, List.map_map]
      rfl
    · rw [listed]
      exact (keeps.lessons entry.key).distinct
  case contents_listed =>
    intro c lesson member
    obtain ⟨entry, known, rfl⟩ := List.mem_map.mp member
    have listed := consistent.contents c entry known
    refine ⟨?_, ?_⟩
    · rw [listed, List.filter_map, List.map_map]
      rfl
    · rw [listed]
      exact (keeps.contents c).distinct.sublist (List.filter_sublist.map Entry.key)
  case course_stored =>
    intro c some
    have founder : catalog.lessons c ≠ [] := by
      rcases some with some | some
      · exact fun none => some (by rw [none, List.map_nil])
      · obtain ⟨content, member⟩ := List.exists_mem_of_ne_nil _ some
        obtain ⟨entry, known, _⟩ := List.mem_map.mp member
        obtain ⟨lesson, there, _⟩ := List.mem_map.mp (consistent.sheltered c entry known)
        exact List.ne_nil_of_mem there
    obtain ⟨entry, known, keyed⟩ := List.mem_map.mp (consistent.founded c founder)
    exact ⟨entry.record, List.mem_map_of_mem known, keyed⟩
  case lesson_stored =>
    intro c content member
    obtain ⟨entry, known, rfl⟩ := List.mem_map.mp member
    obtain ⟨lesson, there, keyed⟩ := List.mem_map.mp (consistent.sheltered c entry known)
    exact ⟨lesson.record, List.mem_map_of_mem there, keyed⟩

theorem Shelf.absent_iff {kind : RecordKind} {store : Store} {ns : Namespace}
    {entries : List (Entry kind.Carrier)} (shelf : store.Shelf ns entries) {id : String} :
    store.recordAt kind ns id = none ↔ id ∉ entries.map Entry.key :=
  shelf.recordAt_eq_none_iff.trans Shelf.fresh_iff

section

variable {store : Store} {catalog : Catalog} (keeps : store.Keeps catalog)

include keeps

theorem Keeps.noLessons_iff (consistent : catalog.Consistent) {c : String} :
    store.NoLessons c ↔ catalog.lessons c = [] := by
  rw [NoLessons, (keeps.lessons c).documents, (keeps.contents c).documents, List.map_eq_nil_iff,
    List.map_eq_nil_iff]
  exact ⟨And.left, fun none => ⟨none, consistent.contents_eq_nil none⟩⟩

theorem Keeps.noContents_iff {c l : String} :
    store.NoContents c l ↔ ∀ content ∈ catalog.contents c, content.record.lessonRef ≠ l := by
  constructor
  · exact fun none content known => none _ _ ((keeps.contents c).recordAt_of_mem known)
  · intro none k content found
    obtain ⟨entry, known, _, rfl⟩ := (keeps.contents c).recordAt_eq_some_iff.mp found
    exact none entry known

end

/-- In a tidy store creations and deletions do what they should. -/
theorem Sound.faithful {store : Store} (tidy : store.Tidy) : store.Faithful := by
  obtain ⟨catalog, keeps, consistent, _⟩ := tidy
  constructor
  case createCourse =>
    intro spare now course
    refine (Curriculum.yields_createCourse keeps consistent now course).weaken (fun _ => id) ?_ ?_
    · rintro created next ⟨catalog, keeps, consistent, there, named, childless, none⟩
      exact ⟨keeps.courses.recordAt_eq_some_iff.mpr ⟨_, there, named, rfl⟩, childless,
        (keeps.noLessons_iff consistent).mpr none⟩
    · rintro next ⟨same, unusable | taken⟩
      · exact ⟨same, .inl unusable⟩
      · exact ⟨same, .inr fun none => keeps.courses.absent_iff.mp none taken⟩
  case deleteCourse =>
    intro spare courseId
    refine (Curriculum.yields_deleteCourse keeps consistent courseId).weaken (fun _ => id) ?_ ?_
    · rintro _ next ⟨catalog, keeps, consistent, gone, none⟩
      exact ⟨keeps.courses.absent_iff.mpr gone, (keeps.noLessons_iff consistent).mpr none⟩
    · rintro next ⟨same, parent⟩
      refine ⟨same, ?_⟩
      rw [keeps.courses.absent_iff, keeps.noLessons_iff consistent]
      exact Decidable.imp_iff_not_or.mp parent
  case createLesson =>
    intro spare lesson
    refine (Curriculum.yields_createLesson keeps consistent lesson).weaken (fun _ => id) ?_ ?_
    · rintro created next ⟨catalog, keeps, _, there, named, childless, none⟩
      have shelf := keeps.lessons lesson.courseRef
      exact ⟨shelf.recordAt_eq_some_iff.mpr ⟨_, there, named, rfl⟩, childless,
        keeps.noContents_iff.mpr none⟩
    · rintro next ⟨same, taken⟩
      refine ⟨same, ?_⟩
      rw [keeps.courses.absent_iff, ne_eq, (keeps.lessons lesson.courseRef).absent_iff,
        Classical.not_not]
      exact Decidable.imp_iff_not_or.mp taken
  case deleteLesson =>
    intro spare courseRef lessonId
    refine (Curriculum.yields_deleteLesson keeps consistent courseRef lessonId).weaken (fun _ => id)
      ?_ ?_
    · rintro _ next ⟨catalog, keeps, _, gone, none⟩
      exact ⟨(keeps.lessons courseRef).absent_iff.mpr gone, keeps.noContents_iff.mpr none⟩
    · rintro next ⟨same, parent⟩
      refine ⟨same, ?_⟩
      rw [(keeps.lessons courseRef).absent_iff, keeps.noContents_iff]
      refine (Decidable.imp_iff_not_or.mp parent).imp_right ?_
      rintro ⟨content, known, child⟩ none
      exact none content known child
  case createContent =>
    intro spare content
    refine (Curriculum.yields_createContent keeps consistent content).weaken (fun _ => id) ?_ ?_
    · rintro created next ⟨catalog, keeps, _, same, there⟩
      have shelf := keeps.contents content.courseRef
      exact ⟨same, shelf.recordAt_eq_some_iff.mpr ⟨_, there, rfl, rfl⟩⟩
    · rintro next ⟨same, taken⟩
      refine ⟨same, ?_⟩
      rw [(keeps.lessons content.courseRef).absent_iff, ne_eq,
        (keeps.contents content.courseRef).absent_iff, Classical.not_not]
      exact Decidable.imp_iff_not_or.mp taken
  case deleteContent =>
    intro spare courseRef contentId
    refine (Curriculum.yields_deleteContent keeps consistent courseRef contentId).weaken
      (fun _ => id) ?_ ?_
    · rintro _ next ⟨catalog, keeps, _, gone⟩
      exact (keeps.contents courseRef).absent_iff.mpr gone
    · rintro next ⟨same, absent⟩
      exact ⟨same, (keeps.contents courseRef).absent_iff.mpr absent⟩

end Store

/-- **Membership lists stay in step.** After any requests and workflows, one after another, on a store
that was empty at first, courses and lessons list just their children, none is without its parent, and
a course or lesson that is then created or deleted has no children; it can be created unless it is
there, and deleted unless it has children. -/
theorem membership_consistent (visits : List (ObjectId × Visit)) :
    (∃ courses lessons contents,
      (Store.empty.visited visits).InStep courses lessons contents) ∧
    (Store.empty.visited visits).Faithful := by
  have tidy := tidy_visited visits Store.tidy_empty
  exact ⟨tidy.inStep, tidy.faithful⟩

end Syllabus
