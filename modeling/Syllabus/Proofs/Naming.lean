/-
**Names of databases, and the places in them.**

The id of a course is the name of the database that holds its lessons and contents. The ids that can be
such names are told here rule by rule; with them no two places are ever one, not even as reports name them
or for a server that does not tell capital letters from small ones.

* `SafeName` — the rules; `isDatabaseName_iff` — a name is usable exactly if it keeps them;
* `foldCase` — a text without capital letters; `SafeName.foldCase_eq` — safe names have none;
* `RecordKind.resolve_iff` — where records of courses are kept; `RecordKind.eq_of_resolve_text` — their
  places are told apart by their texts;
* `Curriculum.createCourse_eq_ask`, `Curriculum.createCourse_eq_fail` — the check of a new course;
* `Curriculum.run_createLesson_of_has` — a course that is there takes a lesson;
* **`names_keep_places_apart`** — all of this together.
-/

import Mathlib.Data.List.Basic
import Syllabus.Proofs.Undisturbed
import Syllabus.Proofs.Workflows

namespace Syllabus

/-! ### Names -/

/-- The rules for the name of a course's database: 1 to 63 bytes, no character that the server cuts names
at or takes for a sign of its own, no capital letter from A to Z, and no name that is taken already. -/
structure SafeName (name : String) : Prop where
  bytes : 1 ≤ name.utf8ByteSize ∧ name.utf8ByteSize ≤ 63
  signs : ∀ c ∈ name.toList, c ∉ ['/', '\\', '.', '"', '$', ' ', '\x00']
  small : ∀ c ∈ name.toList, ¬ ('A' ≤ c ∧ c ≤ 'Z')
  free : name ∉ ["admin", "local", "config", "praromvik"]

theorem isDatabaseChar_iff (c : Char) :
    isDatabaseChar c = true ↔
      c ∉ ['/', '\\', '.', '"', '$', ' ', '\x00'] ∧ ¬ ('A' ≤ c ∧ c ≤ 'Z') := by
  have capital : c.isUpper = true ↔ 'A' ≤ c ∧ c ≤ 'Z' := decide_eq_true_iff
  rw [isDatabaseChar, Bool.and_eq_true, Bool.not_eq_true', Bool.not_eq_true', ← capital,
    Bool.not_eq_true, ← Bool.not_eq_true, List.contains_iff_mem]
  rfl

/-- **A name is usable exactly if it keeps the rules.** -/
theorem isDatabaseName_iff (name : String) : isDatabaseName name = true ↔ SafeName name := by
  have some : (!name.isEmpty) = true ↔ 1 ≤ name.utf8ByteSize := by
    rw [Bool.not_eq_true', ← Bool.not_eq_true, String.isEmpty_iff, Nat.one_le_iff_ne_zero, ne_eq,
      String.utf8ByteSize_eq_zero_iff]
  have free : (!reservedDatabases.contains name) = true ↔
      name ∉ ["admin", "local", "config", "praromvik"] := by
    rw [Bool.not_eq_true', ← Bool.not_eq_true, List.contains_iff_mem]
    rfl
  rw [isDatabaseName, Bool.and_eq_true, Bool.and_eq_true, Bool.and_eq_true, some, free, decide_eq_true_iff,
    List.all_eq_true]
  simp only [isDatabaseChar_iff]
  constructor
  · rintro ⟨⟨bytes, characters⟩, free⟩
    exact ⟨bytes, fun c member => (characters c member).1, fun c member => (characters c member).2, free⟩
  · rintro ⟨bytes, signs, small, free⟩
    exact ⟨⟨bytes, fun c member => ⟨signs c member, small c member⟩⟩, free⟩

/-- The text with the letters from A to Z made small. -/
def foldCase (text : String) : String :=
  text.map Char.toLower

/-- A text without capital letters is as it is. -/
theorem foldCase_of_small {text : String} (small : ∀ c ∈ text.toList, ¬ ('A' ≤ c ∧ c ≤ 'Z')) :
    foldCase text = text := by
  have kept : text.toList.map Char.toLower = text.toList := by
    refine (List.map_congr_left fun c member => ?_).trans (List.map_id _)
    exact dif_neg (small c member)
  rw [← String.toList_inj, foldCase, String.toList_map, kept]

theorem SafeName.foldCase_eq {name : String} (safe : SafeName name) : foldCase name = name :=
  foldCase_of_small safe.small

/-- The names that are taken have no capital letters either. -/
theorem foldCase_of_taken {name : String} (taken : name ∈ ["admin", "local", "config", "praromvik"]) :
    foldCase name = name := by
  have small : ∀ name ∈ ["admin", "local", "config", "praromvik"],
      ∀ c ∈ name.toList, ¬ ('A' ≤ c ∧ c ≤ 'Z') := by simp
  exact foldCase_of_small (small name taken)

/-! ### Places -/

/-- A namespace whose names have no dots is told apart from all others by its text. -/
theorem Namespace.eq_of_text_eq {first second : Namespace} (database : '.' ∉ first.database.toList)
    (collection : '.' ∉ first.collection.toList) (same : first.text = second.text) :
    first = second := by
  have parts : first.database.toList ++ '.' :: first.collection.toList =
      second.database.toList ++ '.' :: second.collection.toList := by
    have texts := congrArg String.toList same
    simpa [text, String.toList_append] using texts
  obtain ⟨databases, -, collections⟩ :=
    (List.append_cons_inj_of_notMem database collection).mp parts
  obtain ⟨_, _⟩ := first
  obtain ⟨_, _⟩ := second
  rw [Namespace.mk.injEq]
  exact ⟨String.toList_inj.mp databases, String.toList_inj.mp collections⟩

namespace RecordKind

variable {kind other : RecordKind} {course within : Option String} {ns there : Namespace}

/-- **Where the records of a course are kept**: in the database of its name, if this is a safe one. -/
theorem resolve_iff (ofCourse : kind.isCourseScoped = true) :
    kind.resolve course = .ok ns ↔ ∃ name, course = some name ∧ SafeName name ∧
      ns = ⟨name, kind.collection⟩ := by
  constructor
  · intro placed
    cases course with
    | none =>
      rw [resolve, if_pos ofCourse] at placed
      cases placed
    | some name =>
      obtain ⟨here, usable⟩ := resolve_of_course ofCourse placed
      exact ⟨name, rfl, (isDatabaseName_iff name).mp usable, here⟩
  · rintro ⟨name, rfl, safe, rfl⟩
    exact resolve_of_usable ofCourse ((isDatabaseName_iff name).mpr safe)

/-- The records of a kind are in its collection, of a database with a safe name or of the system's. -/
theorem place_of_resolve (placed : kind.resolve course = .ok ns) :
    ns.collection = kind.collection ∧ (SafeName ns.database ∨ ns.database = systemDatabase) := by
  cases ofCourse : kind.isCourseScoped with
  | true =>
    obtain ⟨name, -, safe, rfl⟩ := (resolve_iff ofCourse).mp placed
    exact ⟨rfl, .inl safe⟩
  | false =>
    simp only [resolve, ofCourse, Bool.false_eq_true, if_false] at placed
    cases placed
    exact ⟨rfl, .inr rfl⟩

theorem collection_injective (same : kind.collection = other.collection) : kind = other := by
  revert same
  cases kind <;> cases other <;> decide

/-- **A place tells the kind of its records, and their course** if they have one. -/
theorem eq_of_resolve_eq (placed : kind.resolve course = .ok ns)
    (beside : other.resolve within = .ok ns) :
    kind = other ∧ (kind.isCourseScoped = true → course = within) := by
  cases collection_injective
    ((place_of_resolve placed).1.symm.trans (place_of_resolve beside).1)
  refine ⟨rfl, fun ofCourse => ?_⟩
  obtain ⟨name, rfl, -, rfl⟩ := (resolve_iff ofCourse).mp placed
  obtain ⟨again, rfl, -, same⟩ := (resolve_iff ofCourse).mp beside
  exact congrArg (some ∘ Namespace.database) same

/-- **So does the text of a place**, whose names have no dots. -/
theorem eq_of_resolve_text (placed : kind.resolve course = .ok ns)
    (beside : other.resolve within = .ok there) (same : ns.text = there.text) :
    kind = other ∧ (kind.isCourseScoped = true → course = within) := by
  obtain ⟨collected, housed⟩ := place_of_resolve placed
  have database : '.' ∉ ns.database.toList := by
    rcases housed with safe | system
    · exact fun dot => safe.signs '.' dot (by decide)
    · rw [system]
      decide
  have collection : '.' ∉ ns.collection.toList := by
    rw [collected]
    cases kind <;> decide
  cases Namespace.eq_of_text_eq database collection same
  exact eq_of_resolve_eq placed beside

end RecordKind

/-! ### Courses that take lessons -/

theorem Course.placed (course : Course) : Record.place course = .ok coursesAt := rfl

namespace Curriculum

variable {spare : ObjectId} {store next : Store} {now : Instant} {course created : Course}

/-- The id of a new course is refused before the store is asked. -/
theorem createCourse_eq_fail (unusable : ¬ SafeName course.courseId) :
    createCourse now course = .fail (.store (.invalidNamespace course.courseId)) := by
  rw [createCourse, checkDatabaseName, if_neg (mt (isDatabaseName_iff _).mp unusable)]
  rfl

/-- With an id that is usable, the creation of a course goes on and asks the store for it. -/
theorem createCourse_eq_ask (now : Instant) (safe : SafeName course.courseId) :
    ∃ rest, createCourse now course =
      .ask ⟨.validate, .count coursesAt (.byId course.courseId)⟩ rest := by
  rw [createCourse, checkDatabaseName, if_pos ((isDatabaseName_iff _).mpr safe)]
  exact ⟨_, rfl⟩

/-- A course that was created is there, without lessons and under an id that can name a database. -/
theorem has_of_createCourse
    (ran : (createCourse now course).run (Store.respond spare) store = (.ok created, next)) :
    SafeName created.courseId ∧ created = { course with lessons := [], createdAt := some now } ∧
      next.Has coursesAt created.courseId 1 created := by
  by_cases safe : SafeName course.courseId
  · obtain ⟨made, is⟩ : ∃ made : Course,
        made = { course with lessons := [], createdAt := some now } := ⟨_, rfl⟩
    have steps : createCourse now course = records (Records.checkUnique made) >>= fun _ =>
        records (Records.create made) >>= fun _ => .done made := by
      rw [createCourse, checkDatabaseName, if_pos ((isDatabaseName_iff _).mpr safe), is]
      rfl
    rw [steps] at ran
    obtain ⟨_, reached, checked, ran⟩ := Program.run_bind_eq_ok_iff.mp ran
    obtain ⟨_, last, inserted, ran⟩ := Program.run_bind_eq_ok_iff.mp ran
    cases ran
    rw [records, Program.run_mapError_eq_ok_iff] at checked inserted
    obtain ⟨rfl, lacks⟩ := Records.lacks_of_checkUnique (Course.placed created) checked
    obtain ⟨_, made, there, _⟩ := Records.run_create_of_lacks (Course.placed created) lacks
    cases made.symm.trans inserted
    have named : created.courseId = course.courseId := by rw [is]
    exact ⟨named ▸ safe, is, there⟩
  · rw [createCourse_eq_fail safe] at ran
    cases ran

/-- **A course that is there takes a lesson** under an id that none of its lessons has. -/
theorem run_createLesson_of_has {version : Int64} {lesson : Lesson}
    (safe : SafeName lesson.courseRef) (keyed : course.courseId = lesson.courseRef)
    (there : store.Has coursesAt lesson.courseRef version course)
    (free : store.Lacks (lessonsAt lesson.courseRef) lesson.lessonId) :
    ∃ last, (createLesson lesson).run (Store.respond spare) store =
        (.ok { lesson with contents := [] }, last) ∧
      last.Has coursesAt lesson.courseRef (version + 1)
        { course with lessons := course.lessons ++ [lesson.lessonId] } ∧
      last.Has (lessonsAt lesson.courseRef) lesson.lessonId 1 { lesson with contents := [] } := by
  let made : Lesson := { lesson with contents := [] }
  have placed : Record.place made = .ok (lessonsAt lesson.courseRef) :=
    RecordKind.resolve_of_usable rfl ((isDatabaseName_iff _).mpr safe)
  have apart : coursesAt ≠ lessonsAt lesson.courseRef :=
    Store.Keeps.apart .course .lesson (by decide) _ _
  -- The course is read, and the id of the lesson is free.
  have read : (Records.get (Course.withId lesson.courseRef)).run (Store.respond spare) store =
      (.ok course, store) := Records.run_get_of_has (Course.placed _) there
  have checked : (Records.checkUnique made).run (Store.respond spare) store = (.ok (), store) := by
    have none : store.count (lessonsAt lesson.courseRef) (.byId (Record.id made)) = 0 :=
      Store.count_of_lacks free
    rw [Records.run_checkUnique placed, none]
    rfl
  -- The lesson is stored, and the course stays as it was.
  obtain ⟨middle, created, stored, elsewhere⟩ :=
    @Records.run_create_of_lacks _ _ store _ spare made placed free
  have still := there.of_documents_eq (elsewhere coursesAt apart)
  -- The course lists the lesson, which stays as it was.
  obtain ⟨listed, lists⟩ := Store.editMembership_of_has still
    ((Listing.lessons.withMembership_stored .push lesson.lessonId ..).trans
      (by rw [if_neg (by simp [Membership.edited])]; rfl))
  let last := (middle.editMembership coursesAt lesson.courseRef .push Course.lessonsField
    (.string lesson.lessonId)).2
  have synced : (syncParent course .push Course.lessonsField lesson.lessonId).run
      (Store.respond spare) middle = (.ok (), last) := by
    have named : Record.id course = lesson.courseRef := keyed
    rw [syncParent, Program.run_mapError_eq_ok_iff, Records.run_sync (Course.placed _), named]
    exact Prod.ext listed rfl
  have kept : last.documents (lessonsAt lesson.courseRef) =
      middle.documents (lessonsAt lesson.courseRef) :=
    Store.documents_respond_of_ne ⟨.sync, .editMembership coursesAt lesson.courseRef .push
      Course.lessonsField (.string lesson.lessonId)⟩ (fun written target =>
        (Option.some.inj target).symm) apart.symm spare middle
  refine ⟨last, ?_, lists, stored.of_documents_eq kept⟩
  refine Program.run_bind_eq_ok_iff.mpr ⟨course, store, Program.run_mapError_eq_ok_iff.mpr read, ?_⟩
  refine Program.run_bind_eq_ok_iff.mpr ⟨(), store, Program.run_mapError_eq_ok_iff.mpr checked, ?_⟩
  refine Program.run_bind_eq_ok_iff.mpr ⟨(), middle, Program.run_mapError_eq_ok_iff.mpr created, ?_⟩
  exact Program.run_bind_eq_ok_iff.mpr ⟨(), last, synced, rfl⟩

end Curriculum

/-- **Names keep places apart.** Lessons and contents have a place exactly under a safe name, and a course
is created under no other id: the store is not even asked. A course that was created takes any lesson whose
id none of its lessons has. Two places that are equal, or have equal texts, are of one kind and of one
course, if they are of a course at all. No place of a course is in a database that is taken, in capital
letters or small ones, and no two names that have a place differ in these alone. -/
theorem names_keep_places_apart :
    (∀ name, ((∃ ns, RecordKind.lesson.resolve (some name) = .ok ns) ↔ SafeName name) ∧
      ((∃ ns, RecordKind.content.resolve (some name) = .ok ns) ↔ SafeName name)) ∧
    (∀ (now : Instant) (course : Course),
      ((∃ call rest, Curriculum.createCourse now course = .ask call rest) ↔
        SafeName course.courseId) ∧
      (Curriculum.createCourse now course = .fail (.store (.invalidNamespace course.courseId)) ↔
        ¬ SafeName course.courseId)) ∧
    (∀ (spare again : ObjectId) (store next : Store) (now : Instant) (course created : Course)
      (lesson : Lesson),
      (Curriculum.createCourse now course).run (Store.respond spare) store = (.ok created, next) →
      lesson.courseRef = created.courseId →
      next.Lacks (lessonsAt created.courseId) lesson.lessonId →
      ((Curriculum.createLesson lesson).run (Store.respond again) next).1 =
        .ok { lesson with contents := [] }) ∧
    (∀ (kind other : RecordKind) (course within : Option String) (ns there : Namespace),
      kind.resolve course = .ok ns → other.resolve within = .ok there →
      ns = there ∨ ns.text = there.text →
      kind = other ∧ (kind.isCourseScoped = true → course = within)) ∧
    (∀ (kind : RecordKind) (course : Option String) (ns : Namespace), kind.isCourseScoped = true →
      kind.resolve course = .ok ns →
      ∀ taken ∈ ["admin", "local", "config", "praromvik"], foldCase ns.database ≠ foldCase taken) ∧
    (∀ (kind other : RecordKind) (first second : String) (ns there : Namespace),
      kind.isCourseScoped = true → other.isCourseScoped = true →
      kind.resolve (some first) = .ok ns → other.resolve (some second) = .ok there →
      foldCase first = foldCase second → first = second) := by
  have accepted : ∀ {kind : RecordKind}, kind.isCourseScoped = true → ∀ {name : String},
      (∃ ns, kind.resolve (some name) = .ok ns) ↔ SafeName name := by
    intro kind ofCourse name
    constructor
    · rintro ⟨ns, placed⟩
      obtain ⟨_, ⟨⟩, safe, _⟩ := (RecordKind.resolve_iff ofCourse).mp placed
      exact safe
    · exact fun safe => ⟨_, (RecordKind.resolve_iff ofCourse).mpr ⟨name, rfl, safe, rfl⟩⟩
  refine ⟨fun name => ⟨accepted rfl, accepted rfl⟩, fun now course => ?_, ?_, ?_, ?_, ?_⟩
  · by_cases safe : SafeName course.courseId
    · obtain ⟨rest, asks⟩ := Curriculum.createCourse_eq_ask now safe
      rw [asks]
      simp [safe]
    · rw [Curriculum.createCourse_eq_fail safe]
      simp [safe]
  · intro spare again store next now course created lesson ran within free
    obtain ⟨safe, _, there⟩ := Curriculum.has_of_createCourse ran
    rw [← within] at safe there free
    obtain ⟨last, made, _⟩ := Curriculum.run_createLesson_of_has safe within.symm there free
    rw [made]
  · rintro kind other course within ns there placed beside (same | same)
    · cases same
      exact RecordKind.eq_of_resolve_eq placed beside
    · exact RecordKind.eq_of_resolve_text placed beside same
  · intro kind course ns ofCourse placed taken member same
    obtain ⟨name, -, safe, rfl⟩ := (RecordKind.resolve_iff ofCourse).mp placed
    rw [safe.foldCase_eq, foldCase_of_taken member] at same
    exact safe.free (same ▸ member)
  · intro kind other first second ns there ofCourse ofCourse' placed beside same
    have safe := (accepted ofCourse).mp ⟨ns, placed⟩
    have safe' := (accepted ofCourse').mp ⟨there, beside⟩
    rwa [safe.foldCase_eq, safe'.foldCase_eq] at same

end Syllabus
