/-
**Lists stay exact.**

* `Store.Keeps.exact`, `Store.Sound.exact` — where a catalog is in step, the lists are exact;
* `Crowd.KeepsLists` — what is said of clients that create and update; `KeepsLists.exact`;
* **`lists_stay_exact`** — it holds in every order of the calls;
* `inexact_of_stray`, `inexact_of_misplaced`, `inexact_of_overtaking` — what it takes for lists that
  miss a child.
-/

import Syllabus.Proofs.Orderly
import Syllabus.Proofs.Overtaken

namespace Syllabus

/-! ### Catalogs in step -/

namespace Store

/-- Where the courses and lessons of a catalog list their children, the lists are exact. -/
theorem Keeps.exact {store : Store} {catalog : Catalog} (keeps : store.Keeps catalog)
    (lessons : ∀ course ∈ catalog.courses,
      course.record.lessons = (catalog.lessons course.key).map Entry.key)
    (contents : ∀ c, ∀ lesson ∈ catalog.lessons c, lesson.record.contents =
      ((catalog.contents c).filter (·.record.lessonRef == lesson.key)).map Entry.key) :
    store.Exact where
  distinct := by
    intro kind listing c id ids there
    obtain ⟨record, found, rfl⟩ := Option.map_eq_some_iff.mp there
    cases listing with
    | lessons =>
      obtain ⟨entry, member, _, rfl⟩ := keeps.courses.recordAt_eq_some_iff.mp found
      show (Course.lessons entry.record).Nodup
      rw [lessons entry member]
      exact (keeps.lessons entry.key).distinct
    | contents =>
      obtain ⟨entry, member, _, rfl⟩ := (keeps.lessons c).recordAt_eq_some_iff.mp found
      show (Lesson.contents entry.record).Nodup
      rw [contents c entry member]
      exact (keeps.contents c).distinct.sublist (List.filter_sublist.map Entry.key)
  children := by
    intro bond ids there
    obtain ⟨record, found, rfl⟩ := Option.map_eq_some_iff.mp there
    cases bond with
    | lesson c l =>
      obtain ⟨entry, member, keyed, rfl⟩ := keeps.courses.recordAt_eq_some_iff.mp found
      have listed : Course.lessons entry.record = (catalog.lessons c).map Entry.key :=
        (lessons entry member).trans (congrArg (fun key => (catalog.lessons key).map Entry.key) keyed)
      show l ∈ Course.lessons entry.record ↔
        ∃ lesson, store.recordAt .lesson (lessonsAt c) l = some lesson
      rw [listed, List.mem_map]
      constructor
      · rintro ⟨lesson, known, rfl⟩
        exact ⟨_, (keeps.lessons c).recordAt_of_mem known⟩
      · rintro ⟨_, found⟩
        obtain ⟨lesson, known, named, _⟩ := (keeps.lessons c).recordAt_eq_some_iff.mp found
        exact ⟨lesson, known, named⟩
    | content c l k =>
      obtain ⟨entry, member, keyed, rfl⟩ := (keeps.lessons c).recordAt_eq_some_iff.mp found
      have listed : Lesson.contents entry.record =
          ((catalog.contents c).filter (·.record.lessonRef == l)).map Entry.key :=
        (contents c entry member).trans (congrArg (fun key =>
          ((catalog.contents c).filter (·.record.lessonRef == key)).map Entry.key) keyed)
      show k ∈ Lesson.contents entry.record ↔ ∃ content,
        store.recordAt .content (contentsAt c) k = some content ∧ Content.lessonRef content = l
      rw [listed, List.mem_map]
      constructor
      · rintro ⟨content, known, rfl⟩
        obtain ⟨known, under⟩ := List.mem_filter.mp known
        exact ⟨_, (keeps.contents c).recordAt_of_mem known, eq_of_beq under⟩
      · rintro ⟨_, found, under⟩
        obtain ⟨content, known, named, rfl⟩ := (keeps.contents c).recordAt_eq_some_iff.mp found
        exact ⟨content, List.mem_filter.mpr ⟨known, beq_iff_eq.mpr under⟩, named⟩

/-- In a tidy store the lists are exact, and nobody is without a parent. -/
theorem Sound.exact {store : Store} (tidy : store.Tidy) :
    store.Exact ∧ ∀ bond, ¬ store.Stray bond := by
  have listed := (Sound.kept_and_noOrphans tidy).2
  obtain ⟨catalog, keeps, consistent, _⟩ := tidy
  refine ⟨keeps.exact consistent.lessons consistent.contents, fun bond ⟨holds, nobody⟩ => ?_⟩
  obtain ⟨ids, there, _⟩ := (lists_iff_listAt _ _).mp (listed bond holds)
  cases nobody.symm.trans there

end Store

/-! ### In every order -/

/-- What is said of clients that create and update, between any two of their calls. -/
structure Crowd.KeepsLists (start : Store) (tasks : List Authoring)
    (crowd : Crowd CurriculumError Unit) : Prop where
  /-- No list has a child twice. -/
  distinct : ∀ {kind : RecordKind} (listing : Listing kind) (c id : String) (ids : List String),
    crowd.store.listAt listing c id = some ids → ids.Nodup
  /-- Every child that is listed is stored, as a child of the parent that lists it. -/
  stored : ∀ bond, crowd.store.Lists bond → crowd.store.Holds bond
  /-- Of several creations of one id in one course at most one has returned. -/
  single : ∀ client other task task' bond bond', tasks[client]? = some task →
    tasks[other]? = some task' → task.creates? = some bond → task'.creates? = some bond' →
    bond.childNs = bond'.childNs → bond.child = bond'.child →
    crowd.Returned client () → crowd.Returned other () → client = other
  /-- If one has, its parent lists the id once, and no other parent lists it. -/
  listed : ∀ client task bond, tasks[client]? = some task → task.creates? = some bond →
    crowd.Returned client () →
    (∃ ids, crowd.store.listAt bond.listing bond.course bond.parent = some ids ∧
      ids.count bond.child = 1) ∧
    ∀ other : Bond, other.childNs = bond.childNs → other.child = bond.child →
      crowd.store.Lists other → other = bond
  /-- Once all have returned or failed, a list has exactly the children that are stored, other than
  those that had no parent in the beginning. -/
  complete : (∀ program ∈ crowd.programs, program.hasEnded = true) →
    ∀ (bond : Bond) (ids : List String), crowd.store.listAt bond.listing bond.course bond.parent = some ids →
      (bond.child ∈ ids ↔ crowd.store.Holds bond ∧ ¬ start.Stray bond)
  /-- No call of an update changes a list. -/
  steady : ∀ event ∈ crowd.history, ∀ task, tasks[event.client]? = some task →
    task.creates? = none → ∀ {kind : RecordKind} (listing : Listing kind) (c id : String),
    event.after.listAt listing c id = event.before.listAt listing c id

theorem Orderly.keepsLists {start : Store} {tasks : List Authoring} {crowd : Crowd CurriculumError Unit}
    (orderly : Orderly start tasks crowd) : crowd.KeepsLists start tasks where
  distinct := orderly.distinct
  stored := orderly.stored
  single client other task task' bond bond' doing doing' creates creates' ns child done done' :=
    orderly.separate client other task task' _ _ bond bond' ⟨doing, done⟩ ⟨doing', done'⟩
      ⟨creates, .inr rfl⟩ ⟨creates', .inr rfl⟩ ns child
  listed client task bond doing creates done := by
    have runs : crowd.Runs tasks client task (.done ()) := ⟨doing, done⟩
    have listed := (orderly.standings client task _ runs).lists_of_done creates
    obtain ⟨ids, there, member⟩ := (Store.lists_iff_listAt _ _).mp listed
    refine ⟨⟨ids, there, ?_⟩, fun other ns child also => ?_⟩
    · rw [(orderly.distinct _ _ _ ids there).count, if_pos member]
    · exact Store.eq_of_holds ns child (orderly.stored bond listed) (orderly.stored other also)
  complete finished _ _ := orderly.mem_iff_of_ended finished
  steady := orderly.steady

/-- From a start without strays, the lists are exact again. -/
theorem Crowd.KeepsLists.exact {start : Store} {tasks : List Authoring}
    {crowd : Crowd CurriculumError Unit} (keeps : crowd.KeepsLists start tasks)
    (sheltered : ∀ bond, ¬ start.Stray bond)
    (finished : ∀ program ∈ crowd.programs, program.hasEnded = true) : crowd.store.Exact where
  distinct := keeps.distinct
  children bond ids there := by
    rw [keeps.complete finished bond ids there, and_iff_left (sheltered bond)]

/-- **Lists stay exact in every order of the calls.** Clients create lessons and contents and update
records, of the same ids or others, on a store whose documents represent records and whose lists are
exact. If they are not more than the versions that can be told apart, then between any two calls no list
has a child twice or one that is not stored; of several creations of one id at most one returns, and has
its id listed once; no update changes a list; and once all have ended, the lists have all children that
are stored, but for those that had no parent in the beginning. -/
theorem lists_stay_exact {start : Store} {tasks : List Authoring} (regular : start.Regular)
    (exact : start.Exact) (few : tasks.length ≤ 2 ^ 64) (schedule : List Turn) :
    ((Authoring.gathered tasks start).run schedule).KeepsLists start tasks := by
  have orderly : Orderly start tasks ((Authoring.gathered tasks start).run schedule) :=
    Crowd.run_induction (Orderly.gathered regular exact)
      (fun _ turn orderly => orderly.step few turn) schedule
  exact orderly.keepsLists

/-- A store with one course, which has no lessons. -/
def algebraOnly : Store :=
  ⟨[(coursesAt, [Records.stored "algebra" 1 (Course.withId "algebra")])]⟩

theorem documents_algebraOnly_of_ne {ns : Namespace} (elsewhere : ns ≠ coursesAt) :
    algebraOnly.documents ns = [] := by
  simp [algebraOnly, Store.documents, Store.documentsIn, elsewhere.symm]

theorem tidy_algebraOnly : algebraOnly.Tidy := by
  have consistent : (Catalog.empty.setCourses [⟨1, Course.withId "algebra"⟩]).Consistent :=
    Catalog.consistent_empty.addCourse (by decide) rfl (by decide +kernel)
  refine ⟨_, ⟨.single rfl rfl, fun c => .nil ?_, fun c => .nil ?_⟩, consistent, trivial⟩
  · exact documents_algebraOnly_of_ne (Store.Keeps.apart .lesson .course (by decide) _ _)
  · exact documents_algebraOnly_of_ne (Store.Keeps.apart .content .course (by decide) _ _)

/-- Two creations of one lesson, and an update of the course. -/
def lessonRace : List Authoring := [
  .createLesson (Lesson.withId "algebra" "sets"),
  .createLesson (Lesson.withId "algebra" "sets"),
  .updateCourse { Course.withId "algebra" with title := "Algebra" }]

/-- Both creations find the id free and the update reads an empty list, before any of them writes. -/
def lessonRaceTurns : List Turn :=
  [0, 1, 0, 1, 2, 0, 1, 0, 2].map fun client => ⟨client, ⟨0⟩⟩

/-- The race as a case of the theorem: one creation returns, and the lesson is listed once. -/
theorem lists_stay_exact_of_race :
    algebraOnly.Regular ∧ algebraOnly.Exact ∧ lessonRace.length ≤ 2 ^ 64 ∧
      ((Authoring.gathered lessonRace algebraOnly).run lessonRaceTurns).KeepsLists algebraOnly
        lessonRace ∧
      ((Authoring.gathered lessonRace algebraOnly).run lessonRaceTurns).store.listAt .lessons ""
        "algebra" = some ["sets"] := by
  have regular : algebraOnly.Regular := (Store.Sound.kept_and_noOrphans tidy_algebraOnly).1.regular
  have exact : algebraOnly.Exact := (Store.Sound.exact tidy_algebraOnly).1
  exact ⟨regular, exact, by decide, lists_stay_exact regular exact (by decide) lessonRaceTurns,
    by decide +kernel⟩

/-! ### Lists that miss a child -/

/-- The clients have all returned or failed, and the lists are not exact. -/
def EndsInexact (start : Store) (tasks : List Authoring) (schedule : List Turn) : Prop :=
  let crowd := (Authoring.gathered tasks start).run schedule
  (∀ program ∈ crowd.programs, program.hasEnded = true) ∧ ¬ crowd.store.Exact

/-- All turns of one client. -/
def fourTurns : List Turn :=
  List.replicate 4 ⟨0, ⟨0⟩⟩

/-- A content of a lesson. -/
def setsIntro : Content :=
  { Content.withId "algebra" "intro" with lessonRef := "sets" }

/-- A content that was stored, as the only one, under a lesson that it names. -/
theorem Store.not_exact_of_unlisted {store : Store}
    (unlisted : store.listAt .contents "algebra" "sets" = some [])
    (there : store.recordAt .content (contentsAt "algebra") "intro" = some setsIntro) :
    ¬ store.Exact := by
  intro exact
  have listed := (exact.children (.content "algebra" "sets" "intro") [] unlisted).mpr ⟨_, there, rfl⟩
  cases listed

/-- A store with a content whose lesson is missing. -/
def strayStore : Store :=
  ⟨[(coursesAt, [Records.stored "algebra" 1 (Course.withId "algebra")]),
    (contentsAt "algebra", [Records.stored "intro" 1 setsIntro])]⟩

theorem exists_keeps_strayStore : ∃ catalog : Catalog, strayStore.Keeps catalog ∧
    catalog.courses = [⟨1, Course.withId "algebra"⟩] ∧ catalog.lessons = fun _ => [] := by
  refine ⟨⟨[⟨1, Course.withId "algebra"⟩], fun _ => [],
    fun c => if c = "algebra" then [⟨1, setsIntro⟩] else []⟩,
    ⟨.single rfl rfl, fun c => .nil ?_, fun c => ?_⟩, rfl, rfl⟩
  · simp [strayStore, Store.documents, Store.documentsIn, coursesAt, contentsAt, lessonsAt,
      RecordKind.collection]
  · by_cases here : c = "algebra"
    · subst here
      exact .single rfl rfl
    · simp only [if_neg here]
      refine .nil ?_
      simp [strayStore, Store.documents, Store.documentsIn, coursesAt, contentsAt, Ne.symm here,
        RecordKind.collection]

/-- The creation of a lesson that a content names already leaves its list without the content. -/
theorem inexact_of_stray :
    strayStore.Regular ∧ strayStore.Exact ∧
      EndsInexact strayStore [.createLesson (Lesson.withId "algebra" "sets")] fourTurns := by
  obtain ⟨catalog, keeps, courses, lessons⟩ := exists_keeps_strayStore
  refine ⟨keeps.kept.regular, keeps.exact ?_ ?_, by decide +kernel, ?_⟩
  · intro course member
    rw [courses] at member
    cases List.mem_singleton.mp member
    rw [lessons]
    rfl
  · intro c lesson member
    rw [lessons] at member
    cases member
  · exact Store.not_exact_of_unlisted (by decide +kernel) rfl

/-- A store with a lesson under the key of another one. -/
def misplacedStore : Store :=
  ⟨[(coursesAt, [Records.stored "algebra" 1 { Course.withId "algebra" with lessons := ["sets"] }]),
    (lessonsAt "algebra", [Records.stored "sets" 1 (Lesson.withId "algebra" "rings")])]⟩

/-- Where there is one document, its record is the only one. -/
theorem Store.recordAt_eq_some_of_single {store : Store} {kind : RecordKind} {ns : Namespace}
    {key id : String} {version : Int64} {record found : kind.Carrier}
    (only : store.documents ns = [Records.stored key version record]) :
    store.recordAt kind ns id = some found ↔ id = key ∧ found = record := by
  rw [recordAt, findOne, only, List.find?_singleton, Records.byId_accepts_stored]
  by_cases same : key = id
  · simp [same, Records.decode_stored, Except.toOption, eq_comm]
  · simp [same, Ne.symm same]

namespace misplacedStore

theorem documents_of_ne {ns : Namespace} (course : ns ≠ coursesAt) (lesson : ns ≠ lessonsAt "algebra") :
    misplacedStore.documents ns = [] := by
  simp [misplacedStore, Store.documents, Store.documentsIn, course.symm, lesson.symm]

theorem course_iff {id : String} {course : Course} :
    misplacedStore.recordAt .course coursesAt id = some course ↔
      id = "algebra" ∧ course = { Course.withId "algebra" with lessons := ["sets"] } :=
  Store.recordAt_eq_some_of_single rfl

theorem lesson_iff {c id : String} {lesson : Lesson} :
    misplacedStore.recordAt .lesson (lessonsAt c) id = some lesson ↔
      c = "algebra" ∧ id = "sets" ∧ lesson = Lesson.withId "algebra" "rings" := by
  by_cases here : c = "algebra"
  · subst here
    rw [and_iff_right rfl]
    exact Store.recordAt_eq_some_of_single rfl
  · have nothing : misplacedStore.documents (lessonsAt c) = [] :=
      documents_of_ne (Store.Keeps.apart .lesson .course (by decide) _ _)
        fun same => here (congrArg Namespace.database same)
    simp [Store.recordAt, Store.findOne, nothing, here]

theorem no_content (c id : String) : misplacedStore.recordAt .content (contentsAt c) id = none := by
  have nothing : misplacedStore.documents (contentsAt c) = [] :=
    documents_of_ne (Store.Keeps.apart .content .course (by decide) _ _)
      (Store.Keeps.apart .content .lesson (by decide) _ _)
  simp [Store.recordAt, Store.findOne, nothing]

theorem exact : misplacedStore.Exact where
  distinct := by
    intro kind listing c id ids there
    obtain ⟨record, found, rfl⟩ := Option.map_eq_some_iff.mp there
    cases listing with
    | lessons =>
      obtain ⟨_, rfl⟩ := course_iff.mp found
      exact (by decide : ["sets"].Nodup)
    | contents =>
      obtain ⟨_, _, rfl⟩ := lesson_iff.mp found
      exact .nil
  children := by
    intro bond ids there
    obtain ⟨record, found, rfl⟩ := Option.map_eq_some_iff.mp there
    cases bond with
    | lesson c l =>
      obtain ⟨here, rfl⟩ := course_iff.mp found
      show l ∈ ["sets"] ↔ ∃ lesson, misplacedStore.recordAt .lesson (lessonsAt c) l = some lesson
      rw [List.mem_singleton]
      constructor
      · exact fun same => ⟨_, lesson_iff.mpr ⟨here, same, rfl⟩⟩
      · exact fun ⟨_, there⟩ => (lesson_iff.mp there).2.1
    | content c l k =>
      obtain ⟨_, _, rfl⟩ := lesson_iff.mp found
      show k ∈ [] ↔ ∃ content, misplacedStore.recordAt .content (contentsAt c) k = some content ∧ _
      simp [no_content]

theorem no_stray (bond : Bond) : ¬ misplacedStore.Stray bond := by
  rintro ⟨holds, nobody⟩
  cases bond with
  | lesson c l =>
    obtain ⟨lesson, there⟩ := holds
    obtain ⟨rfl, _⟩ := lesson_iff.mp there
    have course := course_iff.mpr ⟨rfl, rfl⟩
    cases course.symm.trans (Option.map_eq_none_iff.mp nobody)
  | content c l k =>
    obtain ⟨content, there, _⟩ := holds
    cases (no_content c k).symm.trans there

end misplacedStore

/-- A content is listed by the lesson that was found, and by no other, so one under a lesson that is
misplaced is not listed. -/
theorem inexact_of_misplaced :
    misplacedStore.Exact ∧ (∀ bond, ¬ misplacedStore.Stray bond) ∧
      EndsInexact misplacedStore [.createContent setsIntro] fourTurns :=
  ⟨misplacedStore.exact, misplacedStore.no_stray, by decide +kernel,
    Store.not_exact_of_unlisted (by decide +kernel) rfl⟩

/-- Any number of lessons, with different ids. -/
def manyLessons (n : Nat) : Lesson :=
  Lesson.withId "algebra" (String.ofList (List.replicate (n + 1) 'a'))

/-- The update of a course takes lessons off the list that were created since it read the course. -/
theorem inexact_of_overtaking :
    algebraOnly.Regular ∧ algebraOnly.Exact ∧ (∀ bond, ¬ algebraOnly.Stray bond) ∧
      ∃ tasks schedule, tasks.length = 2 ^ 64 + 1 ∧
        ∃ event ∈ ((Authoring.gathered tasks algebraOnly).run schedule).history, ∃ change ids,
          tasks[event.client]? = some (.updateCourse change) ∧ ids ≠ [] ∧
          event.before.listAt .lessons "" "algebra" = some ids ∧
          event.after.listAt .lessons "" "algebra" = some [] := by
  have apart : ∀ m n, (manyLessons m).lessonId = (manyLessons n).lessonId → m = n := by
    intro m n same
    have length := congrArg List.length (String.ofList_injective same)
    simpa using length
  have begins : Enrolled (Course.withId "algebra") manyLessons 0 0 algebraOnly := ⟨.single rfl rfl,
    .nil (documents_algebraOnly_of_ne (Store.Keeps.apart .lesson .course (by decide) _ _))⟩
  have named : (Course.withId "algebra").courseId = (Course.withId "algebra").courseId := rfl
  have around : Int64.ofNat (2 ^ 64) = 0 := by decide
  obtain ⟨schedule, event, member, mine, before, after⟩ := overtaken_update_lands (by decide +kernel)
    (fun _ => rfl) apart named begins around
  obtain ⟨exact, sheltered⟩ := Store.Sound.exact tidy_algebraOnly
  refine ⟨(Store.Sound.kept_and_noOrphans tidy_algebraOnly).1.regular, exact, sheltered, _, schedule,
    ?_, event, member, Course.withId "algebra", _, ?_, fun empty => ?_, before, after⟩
  · rw [List.length_cons, List.length_map, List.length_range]
  · rw [mine, List.getElem?_cons_zero]
  · exact absurd (List.range_eq_nil.mp (List.map_eq_nil_iff.mp empty)) (by decide)

/-- **Lists that miss a child.** For exact lists to stay so it takes that the lessons that are created
are not named by a content yet, that records are kept under their ids, and that the versions do not come
round. -/
theorem lists_become_inexact :
    (strayStore.Regular ∧ strayStore.Exact ∧
      EndsInexact strayStore [.createLesson (Lesson.withId "algebra" "sets")] fourTurns) ∧
    (misplacedStore.Exact ∧ (∀ bond, ¬ misplacedStore.Stray bond) ∧
      EndsInexact misplacedStore [.createContent setsIntro] fourTurns) ∧
    (algebraOnly.Regular ∧ algebraOnly.Exact ∧ (∀ bond, ¬ algebraOnly.Stray bond) ∧
      ∃ tasks schedule, tasks.length = 2 ^ 64 + 1 ∧
        ∃ event ∈ ((Authoring.gathered tasks algebraOnly).run schedule).history, ∃ change ids,
          tasks[event.client]? = some (.updateCourse change) ∧ ids ≠ [] ∧
          event.before.listAt .lessons "" "algebra" = some ids ∧
          event.after.listAt .lessons "" "algebra" = some []) :=
  ⟨inexact_of_stray, inexact_of_misplaced, inexact_of_overtaking⟩

end Syllabus
